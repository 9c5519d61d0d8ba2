import ClientGen.Text.Digit
import Mathlib.Data.List.Induction

/-!
Whole numbers in texts. A text of ASCII digits is read as the number that they write, and the
numerals of the numbers from zero on are the texts of ASCII digits that start with no needless zero.
-/
namespace ClientGen.Text

variable {cs : List Char} {c : Char}

/-- The numerals of the numbers from zero on: ASCII digits, of which the first is a zero only if it
is the only one. -/
inductive IsNumeral : List Char → Prop
  | zero : IsNumeral ['0']
  | positive {first : Char} {rest : List Char} (digit : first.isDigit = true)
      (significant : first ≠ '0') (digits : ∀ c ∈ rest, c.isDigit = true) :
      IsNumeral (first :: rest)

theorem toNat_of_isDigit (h : c.isDigit = true) : 48 ≤ c.toNat ∧ c.toNat ≤ 57 := by
  simp only [Char.isDigit, Bool.and_eq_true, decide_eq_true_eq, UInt32.le_iff_toNat_le] at h
  exact h

theorem digitValue?_of_isDigit (h : c.isDigit = true) : digitValue? c = some (c.toNat - 48) := by
  have hascii : c.toNat < 128 := Nat.lt_of_le_of_lt (toNat_of_isDigit h).2 (by decide)
  simp [digitValue?, hascii, h]

theorem isNumberBlank_of_isDigit (h : c.isDigit = true) : isNumberBlank c = false := by
  obtain ⟨hlow, hhigh⟩ := toNat_of_isDigit h
  simp [isNumberBlank, isBlank]
  omega

section Digits

variable (digits : ∀ c ∈ cs, c.isDigit = true)
include digits

theorem trimNumber_of_digits : trimNumber cs = cs := by
  have hdrop {cs : List Char} (h : ∀ c ∈ cs, c.isDigit = true) :
      cs.dropWhile isNumberBlank = cs := by
    cases cs with
    | nil => rfl
    | cons c rest =>
      rw [List.dropWhile_cons_of_neg]
      simp [isNumberBlank_of_isDigit (h c List.mem_cons_self)]
  rw [trimNumber, hdrop digits, hdrop fun c hc => digits c (List.mem_reverse.mp hc),
    List.reverse_reverse]

theorem splitSign_of_digits : splitSign cs = (false, cs) := by
  unfold splitSign
  split
  · cases digits '-' List.mem_cons_self
  · cases digits '+' List.mem_cons_self
  · rfl

theorem groupedDigits?_of_digits (nonempty : cs ≠ []) :
    groupedDigits? cs = some (cs.map fun c => c.toNat - 48) := by
  fun_induction groupedDigits? cs with
  | case1 => exact absurd rfl nonempty
  | case2 c => rw [digitValue?_of_isDigit (digits c List.mem_cons_self)]; rfl
  | case3 c rest => cases digits '_' (by simp)
  | case4 c rest hone hunderscore ih =>
    obtain ⟨hc, hrest⟩ := List.forall_mem_cons.mp digits
    have hmore : rest ≠ [] := fun hnil => hone hnil
    rw [digitValue?_of_isDigit hc, ih hrest hmore]
    rfl

/-- A text of ASCII digits is read as the number that they write. -/
theorem integer?_of_digits (nonempty : cs ≠ []) :
    integer? (.ofList cs) = some (Nat.ofDigitChars 10 cs 0 : Int) := by
  have hvalue : ofDigits 10 (cs.map fun c => c.toNat - 48) = Nat.ofDigitChars 10 cs 0 := by
    simp [ofDigits, Nat.ofDigitChars, List.foldl_map, Nat.mul_comm]
  simp [integer?, trimNumber_of_digits digits, splitSign_of_digits digits,
    groupedDigits?_of_digits digits nonempty, signedDigits, hvalue]

end Digits

theorem isDigit_of_mem_toDigits {n : Nat} (h : c ∈ Nat.toDigits 10 n) : c.isDigit = true :=
  Nat.isDigit_of_mem_toDigits (by decide) (by decide) h

theorem integer?_toDigits (n : Nat) : integer? (.ofList (Nat.toDigits 10 n)) = some (n : Int) := by
  rw [integer?_of_digits (fun _ => isDigit_of_mem_toDigits) Nat.toDigits_ne_nil,
    Nat.ofDigitChars_ten_toDigits]

theorem digitChar_ne_zero : ∀ n < 10, n ≠ 0 → n.digitChar ≠ '0' := by
  decide

/-- The digits of a number other than zero do not start with a zero. -/
theorem toDigits_eq_cons {n : Nat} (h : n ≠ 0) :
    ∃ digit digits, Nat.toDigits 10 n = digit :: digits ∧ digit ≠ '0' := by
  induction n using Nat.strongRecOn with
  | ind n ih =>
    rw [Nat.toDigits_eq_if (by decide)]
    split
    next hsmall => exact ⟨_, _, rfl, digitChar_ne_zero n hsmall h⟩
    next hlarge =>
      obtain ⟨digit, digits, hdigits, hne⟩ := ih (n / 10) (by omega) (by omega)
      exact ⟨digit, digits ++ [(n % 10).digitChar], by rw [hdigits, List.cons_append], hne⟩

theorem isNumeral_toDigits (n : Nat) : IsNumeral (Nat.toDigits 10 n) := by
  by_cases hzero : n = 0
  · subst hzero
    exact .zero
  · obtain ⟨digit, digits, hdigits, hne⟩ := toDigits_eq_cons hzero
    have hall {c : Char} (hc : c ∈ digit :: digits) : c.isDigit = true :=
      isDigit_of_mem_toDigits (hdigits ▸ hc)
    rw [hdigits]
    exact .positive (hall List.mem_cons_self) hne fun c hc => hall (List.mem_cons_of_mem _ hc)

theorem digitChar_of_isDigit (h : c.isDigit = true) : (c.toNat - 48).digitChar = c := by
  obtain ⟨hlow, hhigh⟩ := toNat_of_isDigit h
  rw [← Char.toNat_inj, Nat.toNat_digitChar_of_lt_ten (by omega)]
  omega

theorem toDigits_ofDigitChars_cons {first : Char} {rest : List Char}
    (digit : first.isDigit = true) (significant : first ≠ '0')
    (digits : ∀ c ∈ rest, c.isDigit = true) :
    0 < Nat.ofDigitChars 10 (first :: rest) 0 ∧
      Nat.toDigits 10 (Nat.ofDigitChars 10 (first :: rest) 0) = first :: rest := by
  -- by induction from the last digit, since it is the last one that division takes off
  induction rest using List.reverseRecOn with
  | nil =>
    obtain ⟨hlow, hhigh⟩ := toNat_of_isDigit digit
    have hzero : first.toNat ≠ '0'.toNat := fun h => significant (Char.toNat_inj.mp h)
    have hvalue : Nat.ofDigitChars 10 [first] 0 = first.toNat - 48 := by
      simp [Nat.ofDigitChars_cons]
    rw [hvalue, Nat.toDigits_of_lt_base (by omega), digitChar_of_isDigit digit]
    exact ⟨by simp at hzero; omega, rfl⟩
  | append_singleton rest last ih =>
    have hlast : last.isDigit = true := digits last (by simp)
    obtain ⟨hpositive, hdigits⟩ := ih fun c hc => digits c (by simp [hc])
    obtain ⟨hlow, hhigh⟩ := toNat_of_isDigit hlast
    have hvalue : Nat.ofDigitChars 10 (first :: (rest ++ [last])) 0 =
        10 * Nat.ofDigitChars 10 (first :: rest) 0 + (last.toNat - 48) := by
      rw [← List.cons_append, Nat.ofDigitChars_append, Nat.ofDigitChars_cons,
        Nat.ofDigitChars_nil]
      rfl
    rw [hvalue, ← Nat.toDigits_append_toDigits (by decide) hpositive (by omega), hdigits,
      Nat.toDigits_of_lt_base (by omega), digitChar_of_isDigit hlast, List.cons_append]
    exact ⟨by omega, rfl⟩

theorem IsNumeral.toDigits_eq (h : IsNumeral cs) :
    Nat.toDigits 10 (Nat.ofDigitChars 10 cs 0) = cs := by
  cases h with
  | zero => rfl
  | positive digit significant digits =>
    exact (toDigits_ofDigitChars_cons digit significant digits).2

theorem IsNumeral.ne_nil (h : IsNumeral cs) : cs ≠ [] := by
  cases h <;> simp

theorem IsNumeral.digits (h : IsNumeral cs) : ∀ c ∈ cs, c.isDigit = true := by
  rw [← h.toDigits_eq]
  exact fun _ => isDigit_of_mem_toDigits

end ClientGen.Text
