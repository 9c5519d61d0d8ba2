import Mathlib
import ClientGen.Text.Case
import ClientGen.Proofs.Text.Pieces

/-!
Words written together, each with a capital. Where no word has a capital of ASCII behind its first
letter, the capitals tell where words begin, and the words are read back from what is written.
-/
namespace ClientGen.Text

variable {kind : Char → Bool} {word word' rest rest' : List Char} {words words' : List (List Char)}

/-- A first character of a kind, followed by no capital of ASCII. -/
def IsWord (kind : Char → Bool) : List Char → Prop
  | [] => False
  | first :: rest => kind first = true ∧ ∀ c ∈ rest, c.isUpper = false

instance : DecidablePred (IsWord kind)
  | [] => inferInstanceAs (Decidable False)
  | first :: rest =>
    -- the characters of the word are tried, not all there are
    have : Decidable (∀ c ∈ rest, c.isUpper = false) := List.decidableBAll _ rest
    inferInstanceAs (Decidable (kind first = true ∧ ∀ c ∈ rest, c.isUpper = false))

theorem IsWord.exists_cons (h : IsWord kind word) : ∃ first rest, word = first :: rest ∧
    kind first = true ∧ ∀ c ∈ rest, c.isUpper = false := by
  cases word with
  | nil => exact h.elim
  | cons first rest => exact ⟨first, rest, rfl, h⟩

theorem IsWord.isAlpha (h : IsWord Char.isLower word) : IsWord Char.isAlpha word := by
  obtain ⟨first, rest, rfl, hfirst, hrest⟩ := h.exists_cons
  exact ⟨by simp [Char.isAlpha, hfirst], hrest⟩

/-- A word with a capital ends where the next one begins. -/
theorem append_inj_of_capital (h : IsWord Char.isUpper word) (h' : IsWord Char.isUpper word')
    (next : ∀ c ∈ rest.head?, c.isUpper = true) (next' : ∀ c ∈ rest'.head?, c.isUpper = true)
    (heq : word ++ rest = word' ++ rest') : word = word' ∧ rest = rest' := by
  obtain ⟨first, tail, rfl, -, htail⟩ := h.exists_cons
  obtain ⟨first', tail', rfl, -, htail'⟩ := h'.exists_cons
  obtain ⟨rfl, hcs⟩ := List.cons.inj heq
  obtain ⟨rfl, hrest⟩ : tail = tail' ∧ rest = rest' := by
    refine append_inj_of_stop (p := fun c => !c.isUpper) ?_ ?_ ?_ ?_ hcs
    · simpa using htail
    · simpa using htail'
    · simpa using next
    · simpa using next'
  exact ⟨rfl, hrest⟩

theorem head?_flatten_of_capital (h : ∀ word ∈ words, IsWord Char.isUpper word) :
    ∀ c ∈ words.flatten.head?, c.isUpper = true := by
  cases words with
  | nil => simp
  | cons word rest =>
    obtain ⟨first, tail, rfl, hfirst, -⟩ := (h word List.mem_cons_self).exists_cons
    simpa using hfirst

/-- Words with capitals are read back from what they are together. -/
theorem flatten_inj_of_capital (h : ∀ word ∈ words, IsWord Char.isUpper word)
    (h' : ∀ word ∈ words', IsWord Char.isUpper word) (heq : words.flatten = words'.flatten) :
    words = words' := by
  induction words generalizing words' with
  | nil =>
    cases words' with
    | nil => rfl
    | cons word' rest' =>
      obtain ⟨first, tail, rfl, -⟩ := (h' word' List.mem_cons_self).exists_cons
      cases heq
  | cons word rest ih =>
    rw [List.forall_mem_cons] at h
    cases words' with
    | nil =>
      obtain ⟨first, tail, rfl, -⟩ := h.1.exists_cons
      cases heq
    | cons word' rest' =>
      rw [List.forall_mem_cons] at h'
      obtain ⟨rfl, hrest⟩ := append_inj_of_capital h.1 h'.1 (head?_flatten_of_capital h.2)
        (head?_flatten_of_capital h'.2) heq
      rw [ih h.2 h'.2 hrest]

theorem upperChar_of_isAlpha {c : Char} (h : c.isAlpha = true) : upperChar c = [c.toUpper] := by
  have hascii : c.toNat < 128 := by
    simp only [Char.isAlpha, Char.isUpper, Char.isLower, Bool.or_eq_true, Bool.and_eq_true,
      decide_eq_true_eq, ge_iff_le, UInt32.le_iff_toNat_le] at h
    have hz : 'z'.val.toNat = 122 := rfl
    have hZ : 'Z'.val.toNat = 90 := rfl
    have hc : c.toNat = c.val.toNat := rfl
    omega
  simp [upperChar, hascii]

/-- The characters of a word with its first letter as a capital. -/
def withCapital (word : List Char) : List Char := (capitalize (.ofList word)).toList

theorem withCapital_toList (s : String) : withCapital s.toList = (capitalize s).toList := by
  rw [withCapital, String.ofList_toList]

theorem withCapital_cons {first : Char} (h : first.isAlpha = true) :
    withCapital (first :: rest) = first.toUpper :: rest := by
  simp [withCapital, capitalize, upperChar_of_isAlpha h]

theorem IsWord.withCapital (h : IsWord Char.isAlpha word) :
    IsWord Char.isUpper (Text.withCapital word) := by
  obtain ⟨first, rest, rfl, hfirst, hrest⟩ := h.exists_cons
  rw [withCapital_cons hfirst]
  exact ⟨by rw [Char.isUpper_toUpper_eq_isAlpha, hfirst], hrest⟩

/-- Words that begin with small letters are told apart with their capitals as without. -/
theorem withCapital_inj (h : IsWord Char.isLower word) (h' : IsWord Char.isLower word') :
    withCapital word = withCapital word' ↔ word = word' := by
  refine ⟨fun heq => ?_, fun heq => by rw [heq]⟩
  obtain ⟨first, rest, rfl, hfirst, -⟩ := h.exists_cons
  obtain ⟨first', rest', rfl, hfirst', -⟩ := h'.exists_cons
  rw [withCapital_cons (by simp [Char.isAlpha, hfirst]),
    withCapital_cons (by simp [Char.isAlpha, hfirst'])] at heq
  obtain ⟨hupper, rfl⟩ := List.cons.inj heq
  -- a small letter is the small letter of its capital
  have hlower := congrArg Char.toLower hupper
  rw [Char.toLower_toUpper_eq_toLower, Char.toLower_toUpper_eq_toLower,
    Char.toLower_eq_of_not_isUpper (Char.not_isUpper_of_isLower hfirst),
    Char.toLower_eq_of_not_isUpper (Char.not_isUpper_of_isLower hfirst')] at hlower
  rw [hlower]

theorem capitalize_inj {s t : String} (h : IsWord Char.isLower s.toList)
    (h' : IsWord Char.isLower t.toList) : capitalize s = capitalize t ↔ s = t := by
  rw [← String.toList_inj, ← withCapital_toList, ← withCapital_toList, withCapital_inj h h',
    String.toList_inj]

theorem map_withCapital_inj (h : ∀ word ∈ words, IsWord Char.isLower word)
    (h' : ∀ word ∈ words', IsWord Char.isLower word) :
    words.map withCapital = words'.map withCapital ↔ words = words' := by
  refine ⟨fun heq => ?_, fun heq => by rw [heq]⟩
  induction words generalizing words' with
  | nil => exact (List.map_eq_nil_iff.mp heq.symm).symm
  | cons word rest ih =>
    obtain ⟨word', rest', rfl, hword, hrest⟩ := List.map_eq_cons_iff.mp heq.symm
    rw [List.forall_mem_cons] at h h'
    rw [(withCapital_inj h'.1 h.1).mp hword, ih h.2 h'.2 hrest.symm]

end ClientGen.Text
