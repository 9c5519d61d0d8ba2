import ClientGen.Document.Json.Printer
import ClientGen.Document.Json.Reader
import ClientGen.Proofs.Outcome
import ClientGen.Proofs.Text.Numeral
import Mathlib.Tactic.SplitIfs

/-!
The JSON texts of scalars, read back. A string is read one character at a time, and a number up to
the line break or the comma that follows it.
-/
namespace ClientGen.Json

open Outcome Text

variable {rest : List Char}

/-- What follows a value within a written document: a line break or a comma. -/
inductive Stops : List Char → Prop
  | newline (rest : List Char) : Stops ('\n' :: rest)
  | comma (rest : List Char) : Stops (',' :: rest)

theorem hexDigit?_hexChar {n : Nat} (h : n < 16) : hexDigit? (hexChar n) = some n := by
  revert n
  decide

theorem fourHex?_hexDigits {n : Nat} (h : n < 65536) (rest : List Char) :
    fourHex? (hexDigits 4 n ++ rest) = some (n, rest) := by
  have hdigit (m : Nat) : hexDigit? (hexChar (m % 16)) = some (m % 16) :=
    hexDigit?_hexChar (Nat.mod_lt _ (by decide))
  simp only [hexDigits, List.nil_append, List.cons_append, fourHex?, List.mapM_cons, List.mapM_nil,
    hdigit, Option.bind_eq_bind, Option.bind_some, Option.pure_def, ofDigits, List.foldl_cons,
    List.foldl_nil]
  congr 2
  omega

/-- A control character is read back from its number, since it is no half of a pair. -/
theorem numericEscape_hexDigits {c : Char} (control : c.toNat < 32) (hrest : rest ≠ []) :
    numericEscape (hexDigits 4 c.toNat ++ rest) = .ok (c, rest) := by
  have hwhole : isSurrogate c.toNat = false := by
    simp [isSurrogate]
    omega
  have hcode : escapeCode (hexDigits 4 c.toNat ++ rest) = .ok (c.toNat, rest) := by
    have hnumber : c.toNat < 65536 := by omega
    have hmore : rest.isEmpty = false := by simpa using hrest
    unfold escapeCode
    simp only [fourHex?_hexDigits hnumber, hmore, hwhole, Bool.not_false, Bool.true_or, if_true,
      Bool.false_eq_true, if_false]
    split <;> rfl
  simp [numericEscape, hcode, hwhole]

def consChar (c : Char) (read : Except Fault (List Char × List Char)) :
    Except Fault (List Char × List Char) :=
  read.map fun (text, rest) => (c :: text, rest)

theorem readString_simple {letter c : Char} (escape : simpleEscape? letter = some c)
    (start fuel : Nat) (rest : List Char) :
    readString start (fuel + 1) ('\\' :: letter :: rest) =
      consChar c (readString start fuel rest) := by
  rw [readString, escape]
  · cases readString start fuel rest <;> rfl
  · rintro rfl
    cases escape

theorem readString_numeric {c : Char} (control : c.toNat < 32) (start fuel : Nat)
    (hrest : rest ≠ []) :
    readString start (fuel + 1) ('\\' :: 'u' :: (hexDigits 4 c.toNat ++ rest)) =
      consChar c (readString start fuel rest) := by
  rw [readString, numericEscape_hexDigits control hrest]
  cases h : readString start fuel rest <;> simp only [Bind.bind, Except.bind, h] <;> rfl

theorem readString_raw {c : Char} (quote : c ≠ '"') (backslash : c ≠ '\\')
    (control : ¬c.toNat < 32) (start fuel : Nat) (rest : List Char) :
    readString start (fuel + 1) (c :: rest) = consChar c (readString start fuel rest) := by
  rw [readString, if_neg control]
  · cases readString start fuel rest <;> rfl
  all_goals simp [quote, backslash]

theorem readString_escapeChar (start fuel : Nat) (c : Char) (hrest : rest ≠ []) :
    readString start (fuel + 1) (escapeChar c ++ rest) =
      consChar c (readString start fuel rest) := by
  have hcode {n : Nat} (h : (c.toNat == n) = true) : Char.ofNat n = c := by
    rw [← beq_iff_eq.mp h, Char.ofNat_toNat]
  unfold escapeChar
  split_ifs with hquote hnewline hreturn htab hback hform hcontrol
  · refine readString_simple ?_ start fuel rest
    simp only [Bool.or_eq_true, beq_iff_eq] at hquote
    rcases hquote with rfl | rfl <;> rfl
  · rw [beq_iff_eq.mp hnewline]
    exact readString_simple rfl start fuel rest
  · rw [beq_iff_eq.mp hreturn]
    exact readString_simple rfl start fuel rest
  · rw [beq_iff_eq.mp htab]
    exact readString_simple rfl start fuel rest
  · have hescape : simpleEscape? 'b' = some c := congrArg some (hcode hback)
    exact readString_simple hescape start fuel rest
  · have hescape : simpleEscape? 'f' = some c := congrArg some (hcode hform)
    exact readString_simple hescape start fuel rest
  · exact readString_numeric hcontrol start fuel hrest
  · simp only [Bool.or_eq_true, beq_iff_eq, not_or] at hquote
    exact readString_raw hquote.1 hquote.2 hcontrol start fuel rest

theorem readString_escapeChars (start : Nat) (cs : List Char) {fuel : Nat} (h : cs.length < fuel)
    (rest : List Char) :
    readString start fuel (escapeChars cs ++ '"' :: rest) = .ok (cs, rest) := by
  induction cs generalizing fuel with
  | nil =>
    obtain ⟨fuel, rfl⟩ := Nat.exists_eq_add_one_of_ne_zero (Nat.ne_zero_of_lt h)
    rfl
  | cons c cs ih =>
    obtain ⟨fuel, rfl⟩ := Nat.exists_eq_add_one_of_ne_zero (Nat.ne_zero_of_lt h)
    have hfuel : cs.length < fuel := by simpa using h
    rw [escapeChars, List.flatMap_cons, List.append_assoc, readString_escapeChar _ _ _ (by simp)]
    rw [← escapeChars, ih hfuel]
    rfl

theorem length_le_escapeChars (cs : List Char) : cs.length ≤ (escapeChars cs).length := by
  induction cs with
  | nil => exact Nat.le_refl _
  | cons c cs ih =>
    have hone : 1 ≤ (escapeChar c).length := by
      unfold escapeChar
      split_ifs <;> simp
    rw [escapeChars, List.flatMap_cons, List.length_append, List.length_cons, ← escapeChars]
    omega

/-- A string is read back up to its closing quote, with the fuel that the reader gives itself. -/
theorem readString_quoted (cs : List Char) (rest : List Char) :
    readString ((escapeChars cs ++ '"' :: rest).length + 1)
      ((escapeChars cs ++ '"' :: rest).length + 1) (escapeChars cs ++ '"' :: rest) =
      .ok (cs, rest) := by
  have hlength := length_le_escapeChars cs
  refine readString_escapeChars _ cs ?_ rest
  rw [List.length_append]
  omega

theorem digitsValue_toDigits (n : Nat) : digitsValue (Nat.toDigits 10 n) = n := by
  have hdigits := Nat.ofDigitChars_toDigits (b := 10) (n := n) (by decide) (by decide)
  simp only [Nat.ofDigitChars, Nat.mul_comm 10] at hdigits
  exact hdigits

theorem spanDigits_append {digits : List Char} (hdigits : ∀ c ∈ digits, c.isDigit = true)
    (stops : Stops rest) : spanDigits (digits ++ rest) = (digits, rest) := by
  unfold spanDigits
  rw [List.takeWhile_append_of_pos hdigits, List.dropWhile_append_of_pos hdigits]
  cases stops <;> simp [Char.isDigit]

theorem readFraction_of_stops (stops : Stops rest) : readFraction rest = (none, rest) := by
  cases stops <;> rfl

theorem readExponent_of_stops (stops : Stops rest) : readExponent rest = (none, rest) := by
  cases stops <;> rfl

theorem readNumber?_toDigits (negative : Bool) (n : Nat) (stops : Stops rest) :
    readNumber? negative (Nat.toDigits 10 n ++ rest) =
      some (.int (if negative then -(n : Int) else n), rest) := by
  have hspan : spanDigits (Nat.toDigits 10 n ++ rest) = (Nat.toDigits 10 n, rest) :=
    spanDigits_append (fun c hc => Nat.isDigit_of_mem_toDigits (by decide) (by decide) hc) stops
  have hnumber : numberOf negative (Nat.toDigits 10 n) none none =
      .int (if negative then -(n : Int) else n) := by
    rw [numberOf, digitsValue_toDigits]
  by_cases hzero : n = 0
  · subst hzero
    simp only [readNumber?, Nat.toDigits_zero, List.cons_append, List.nil_append,
      readFraction_of_stops stops, readExponent_of_stops stops]
    exact congrArg (fun number => some (number, rest)) hnumber
  · obtain ⟨digit, digits, hdigits, hne⟩ := toDigits_eq_cons hzero
    rw [hdigits] at hspan hnumber
    rw [hdigits]
    unfold readNumber?
    split
    next heq => exact absurd (List.cons.inj heq).1 hne
    · simp only [hspan, readFraction_of_stops stops, readExponent_of_stops stops, hnumber]

theorem words_letters :
    ∀ word ∈ words, 2 ≤ word.1.length ∧ (word.1.all fun c => !c.isDigit) = true := by
  decide +kernel

/-- A text with a digit among its first two characters starts with no word. -/
theorem find?_words {cs : List Char} (place : Nat) (near : place < 2) {c : Char}
    (hc : cs[place]? = some c) (digit : c.isDigit = true) :
    (words.find? fun word => word.1.isPrefixOf cs) = none := by
  rw [List.find?_eq_none]
  intro word hmem hprefix
  obtain ⟨hlong, hletters⟩ := words_letters word hmem
  obtain ⟨after, rfl⟩ := List.isPrefixOf_iff_prefix.mp hprefix
  rw [List.getElem?_append_left (by omega)] at hc
  have hother := List.all_eq_true.mp hletters c (List.mem_of_getElem? hc)
  simp [digit] at hother

theorem toDigits_head (n : Nat) :
    ∃ digit digits, Nat.toDigits 10 n = digit :: digits ∧ digit.isDigit = true := by
  cases h : Nat.toDigits 10 n with
  | nil => exact absurd h Nat.toDigits_ne_nil
  | cons digit digits =>
    exact ⟨digit, digits, rfl, Nat.isDigit_of_mem_toDigits (by decide) (by decide)
      (h ▸ List.mem_cons_self)⟩

def intChars (n : Int) : List Char :=
  if 0 ≤ n then Nat.toDigits 10 n.toNat else '-' :: Nat.toDigits 10 (-n).toNat

theorem toList_toString (n : Int) : (toString n).toList = intChars n := by
  rw [Int.toString_eq_repr, Int.repr_eq_if, intChars]
  split
  · exact Nat.toList_repr
  · rw [String.toList_append, Nat.toList_repr]
    rfl

theorem readScalar?_intChars (n : Int) (stops : Stops rest) :
    readScalar? (intChars n ++ rest) = some (.int n, rest) := by
  unfold intChars
  split
  next hpos =>
    obtain ⟨digit, digits, hdigits, hdigit⟩ := toDigits_head n.toNat
    have hunsigned : digit ≠ '-' := by
      rintro rfl
      cases hdigit
    have hnumber := readNumber?_toDigits false n.toNat stops
    rw [hdigits, List.cons_append] at hnumber ⊢
    rw [readScalar?, find?_words 0 (by decide) rfl hdigit]
    · simp only [hnumber, Bool.false_eq_true, if_false, Int.toNat_of_nonneg hpos]
    · intro _ hcons
      exact hunsigned (List.cons.inj hcons).1
  next hneg =>
    obtain ⟨digit, digits, hdigits, hdigit⟩ := toDigits_head (-n).toNat
    have hnumber := readNumber?_toDigits true (-n).toNat stops
    have hvalue : -((-n).toNat : Int) = n := by omega
    rw [List.cons_append, readScalar?, find?_words 1 (by decide) (by simp [hdigits]) hdigit]
    simp only [hnumber, if_true, hvalue]

end ClientGen.Json
