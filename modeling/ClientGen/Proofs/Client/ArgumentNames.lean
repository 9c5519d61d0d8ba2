import ClientGen.Client.Naming
import ClientGen.Proofs.Text.Pieces
import ClientGen.Proofs.Text.Trimming

/-!
Argument names. Whatever the name of a parameter, the argument for it is a name of small letters,
digits and single underscores that is neither reserved nor one of the signature's own, and an
argument name is its own argument name.
-/
namespace ClientGen.Client

open Text

variable {words cs : List Char} {c : Char}

/-- Whether a text is spelled as a name: small letters, digits and underscores, no digit first. -/
def IsSpelled (cs : List Char) : Prop :=
  ∃ first rest, cs = first :: rest ∧ (isSmall first = true ∨ first = '_') ∧
    ∀ c ∈ rest, isSmall c = true ∨ c.isDigit = true ∨ c = '_'

/-- What can be the name of an argument beside those of the signature itself. -/
structure IsArgument (s : String) : Prop where
  spelled : IsSpelled s.toList
  not_keyword : s ∉ keywords
  ne_self : s ≠ "self"
  ne_body : s ≠ "body"
  single : ¬['_', '_'] <:+: s.toList

/-- Words of small letters and digits between single underscores, none of them at the ends. -/
structure IsWords (words : List Char) : Prop where
  chars : ∀ c ∈ words, isArgumentChar c = true
  single : ¬['_', '_'] <:+: words
  head : ∀ c ∈ words.head?, (c == '_') = false
  last : ∀ c ∈ words.getLast?, (c == '_') = false

section Collapse

theorem mem_of_mem_collapseUnderscores (h : c ∈ collapseUnderscores cs) : c ∈ cs := by
  fun_induction collapseUnderscores cs with
  | case1 rest ih => exact List.mem_cons_of_mem _ (ih h)
  | case2 d rest _ ih =>
    rcases List.mem_cons.mp h with rfl | h
    · exact List.mem_cons_self
    · exact List.mem_cons_of_mem _ (ih h)
  | case3 => cases h

theorem head?_collapseUnderscores (cs : List Char) :
    (collapseUnderscores cs).head? = cs.head? := by
  fun_induction collapseUnderscores cs with
  | case1 rest ih => rw [ih, List.head?_cons, List.head?_cons]
  | case2 => rfl
  | case3 => rfl

theorem not_infix_collapseUnderscores (cs : List Char) :
    ¬['_', '_'] <:+: collapseUnderscores cs := by
  fun_induction collapseUnderscores cs with
  | case1 rest ih => exact ih
  | case2 c rest hother ih =>
    rw [List.infix_cons_iff, List.cons_prefix_cons, List.singleton_prefix_iff_head?_eq_some,
      head?_collapseUnderscores]
    rintro (⟨rfl, hnext⟩ | hlater)
    · obtain ⟨tail, rfl⟩ := List.head?_eq_some_iff.mp hnext
      exact hother tail rfl rfl
    · exact ih hlater
  | case3 => simp

theorem collapseUnderscores_of_single (h : ¬['_', '_'] <:+: cs) : collapseUnderscores cs = cs := by
  fun_induction collapseUnderscores cs with
  | case1 rest ih => exact absurd ⟨[], rest, rfl⟩ h
  | case2 c rest _ ih => rw [ih fun hlater => h (hlater.trans (List.suffix_cons c rest).isInfix)]
  | case3 => rfl

end Collapse

theorem isWords_argumentWords (name : String) : IsWords (argumentWords name) := by
  have htrims := trims_iff.mpr (rfl : _ = argumentWords name)
  refine ⟨fun c hc => ?_, fun h => ?_, htrims.head, htrims.last⟩
  · have hmem := mem_of_mem_collapseUnderscores (htrims.isInfix.subset hc)
    obtain ⟨d, -, rfl⟩ := List.mem_map.mp hmem
    split
    next hd => exact hd
    next => decide
  · exact not_infix_collapseUnderscores _ (h.trans htrims.isInfix)

theorem toNat_of_isArgumentChar (h : isArgumentChar c = true) :
    48 ≤ c.toNat ∧ c.toNat ≤ 57 ∨ 97 ≤ c.toNat ∧ c.toNat ≤ 122 ∨ c.toNat = 95 := by
  simp only [isArgumentChar, isSmall, Char.isDigit, Bool.or_eq_true, Bool.and_eq_true,
    decide_eq_true_eq, Char.le_def, UInt32.le_iff_toNat_le, ge_iff_le, beq_iff_eq] at h
  rcases h with (hsmall | hdigit) | rfl
  · exact .inr (.inl hsmall)
  · exact .inl hdigit
  · exact .inr (.inr rfl)

theorem isCapital_of_isArgumentChar (h : isArgumentChar c = true) : isCapital c = false := by
  have hcode := toNat_of_isArgumentChar h
  have hA : 'A'.toNat = 65 := rfl
  have hZ : 'Z'.toNat = 90 := rfl
  simp only [isCapital, Char.le_def, UInt32.le_iff_toNat_le, Bool.and_eq_false_iff,
    decide_eq_false_iff_not]
  change ¬ 'A'.toNat ≤ c.toNat ∨ ¬c.toNat ≤ 'Z'.toNat
  omega

theorem lowerChar_of_isArgumentChar (h : isArgumentChar c = true) : lowerChar c = [c] := by
  have hcode := toNat_of_isArgumentChar h
  have hcapital := isCapital_of_isArgumentChar h
  have hlower : c.toLower = c := by
    unfold Char.toLower
    rw [dif_neg]
    simpa [isCapital, Char.le_def] using hcapital
  rw [lowerChar, if_pos (by omega), hlower]

theorem separateWords_of_chars (h : ∀ c ∈ cs, isArgumentChar c = true) (before : Option Char) :
    separateWords before cs = cs := by
  induction cs generalizing before with
  | nil => rfl
  | cons c rest ih =>
    obtain ⟨hc, hrest⟩ := List.forall_mem_cons.mp h
    have hstart : startsWord before c rest.head? = false := by
      cases before <;> simp [startsWord, isCapital_of_isArgumentChar hc]
    simp [separateWords, hstart, ih hrest]

theorem lowerAfter_of_chars (h : ∀ c ∈ cs, isArgumentChar c = true) (before : List Char) :
    lowerAfter before cs = cs := by
  fun_induction lowerAfter before cs with
  | case1 => rfl
  | case2 => exact absurd (h 'Σ' List.mem_cons_self) (by decide)
  | case3 before c rest _ ih =>
    obtain ⟨hc, hrest⟩ := List.forall_mem_cons.mp h
    rw [lowerChar_of_isArgumentChar hc, ih hrest]
    rfl

theorem argumentWords_of_chars {s : String} (h : ∀ c ∈ s.toList, isArgumentChar c = true)
    (single : ¬['_', '_'] <:+: s.toList) : argumentWords s = trimUnderscores s.toList := by
  have hmap : s.toList.map (fun c => if isArgumentChar c then c else '_') = s.toList := by
    conv_rhs => rw [← List.map_id s.toList]
    exact List.map_congr_left fun c hc => if_pos (h c hc)
  simp only [argumentWords, lower, separateWords_of_chars h, String.toList_ofList,
    lowerAfter_of_chars h, hmap, collapseUnderscores_of_single single]

/-- The words of a name, or the word for a name that has none. -/
def wordsOr (words : List Char) : List Char := if words.isEmpty then "param".toList else words

/-- Words with an underscore before them if they start with a digit. -/
def withStart (words : List Char) : List Char :=
  if words.head?.any Char.isDigit then '_' :: words else words

/-- A name with an underscore behind it if it is taken. -/
def freed (s : String) : String :=
  if isKeyword s || ownArguments.contains s then s ++ "_" else s

theorem argumentName_eq (name : String) :
    argumentName name = freed (.ofList (withStart (wordsOr (argumentWords name)))) := rfl

theorem wordsOr_ne_nil (words : List Char) : wordsOr words ≠ [] := by
  unfold wordsOr
  split
  · decide
  next hne => simpa using hne

theorem wordsOr_of_ne_nil (h : words ≠ []) : wordsOr words = words := by
  simp [wordsOr, h]

theorem IsWords.wordsOr (h : IsWords words) : IsWords (wordsOr words) := by
  unfold Client.wordsOr
  split
  · have hparam : "param".toList = ['p', 'a', 'r', 'a', 'm'] := rfl
    rw [hparam]
    exact ⟨by simp [isArgumentChar, isSmall], by decide, by simp, by simp⟩
  · exact h

/-- A name that is taken does not end with an underscore, so one that does is free. -/
theorem freed_free (s : String) : freed s ∉ keywords ∧ freed s ∉ ownArguments := by
  unfold freed
  split
  · have hlast : ∀ taken ∈ keywords ++ ownArguments, taken.toList.getLast? ≠ some '_' := by decide
    rw [← not_or, ← List.mem_append]
    intro hmem
    exact hlast _ hmem (by simp [String.toList_append])
  next hfree => simpa [isKeyword] using hfree

theorem argumentName_not_own (name : String) : argumentName name ∉ ownArguments := by
  rw [argumentName_eq]
  exact (freed_free _).2

theorem toList_freed (s : String) :
    (freed s).toList = s.toList ∨ (freed s).toList = s.toList ++ ['_'] := by
  unfold freed
  split <;> simp [String.toList_append]

/-- Around the words of a name stands at most one underscore on either side. -/
theorem exists_argumentName (name : String) : ∃ before after,
    (argumentName name).toList = before ++ wordsOr (argumentWords name) ++ after ∧
      (before = [] ∨ before = ['_']) ∧ (after = [] ∨ after = ['_']) := by
  rw [argumentName_eq]
  generalize wordsOr (argumentWords name) = words
  obtain ⟨before, hbefore, hor⟩ : ∃ before, withStart words = before ++ words ∧
      (before = [] ∨ before = ['_']) := by
    unfold withStart
    split
    · exact ⟨['_'], rfl, .inr rfl⟩
    · exact ⟨[], rfl, .inl rfl⟩
  rw [hbefore]
  rcases toList_freed (.ofList (before ++ words)) with h | h
  · exact ⟨before, [], by rw [h, String.toList_ofList, List.append_nil], hor, .inl rfl⟩
  · exact ⟨before, ['_'], by rw [h, String.toList_ofList], hor, .inr rfl⟩

theorem isSpelled_freed {s : String} (h : IsSpelled s.toList) : IsSpelled (freed s).toList := by
  rcases toList_freed s with hs | hs
  · rwa [hs]
  · obtain ⟨first, rest, hfirst, hstart, hrest⟩ := h
    refine ⟨first, rest ++ ['_'], by rw [hs, hfirst, List.cons_append], hstart, ?_⟩
    simpa [or_imp, forall_and] using hrest

theorem IsWords.isSpelled_withStart (h : IsWords words) (hne : words ≠ []) :
    IsSpelled (withStart words) := by
  have hchars : ∀ c ∈ words, isSmall c = true ∨ c.isDigit = true ∨ c = '_' := by
    simpa [isArgumentChar, or_assoc] using h.chars
  unfold withStart
  split
  next => exact ⟨'_', words, rfl, .inr rfl, hchars⟩
  next hdigit =>
    obtain ⟨first, rest, rfl⟩ := List.exists_cons_of_ne_nil hne
    rw [List.forall_mem_cons] at hchars
    refine ⟨first, rest, rfl, ?_, hchars.2⟩
    rcases hchars.1 with hsmall | hfirst | hfirst
    · exact .inl hsmall
    · exact absurd hfirst (by simpa using hdigit)
    · exact .inr hfirst

theorem IsWords.chars_around (h : IsWords words) {before after : List Char}
    (hbefore : before = [] ∨ before = ['_']) (hafter : after = [] ∨ after = ['_']) :
    ∀ c ∈ before ++ words ++ after, isArgumentChar c = true := by
  have hunderscore : isArgumentChar '_' = true := by decide
  rcases hbefore with rfl | rfl <;> rcases hafter with rfl | rfl <;>
    simpa [or_imp, forall_and, hunderscore] using h.chars

/-- Words have no underscore at their ends, so with one more on either side none is doubled. -/
theorem IsWords.single_around (h : IsWords words) (hne : words ≠ []) {before after : List Char}
    (hbefore : before = [] ∨ before = ['_']) (hafter : after = [] ∨ after = ['_']) :
    ¬['_', '_'] <:+: before ++ words ++ after := by
  have hstart : ¬['_', '_'] <:+: before ++ words := by
    rcases hbefore with rfl | rfl
    · exact h.single
    · rw [List.singleton_append, List.infix_cons_iff, List.cons_prefix_cons,
        List.singleton_prefix_iff_head?_eq_some]
      rintro (⟨-, hhead⟩ | hlater)
      · simpa using h.head '_' hhead
      · exact h.single hlater
  rcases hafter with rfl | rfl
  · rwa [List.append_nil]
  · rw [pair_infix_concat_iff, List.getLast?_append_of_ne_nil _ hne]
    rintro (hlast | hearlier)
    · simpa using h.last '_' hlast
    · exact hstart hearlier

theorem isArgumentChar_of_mem_argumentName (name : String) :
    ∀ c ∈ (argumentName name).toList, isArgumentChar c = true := by
  obtain ⟨before, after, hname, hbefore, hafter⟩ := exists_argumentName name
  rw [hname]
  exact (isWords_argumentWords name).wordsOr.chars_around hbefore hafter

theorem argumentWords_argumentName (name : String) :
    argumentWords (argumentName name) = wordsOr (argumentWords name) := by
  have hwords := (isWords_argumentWords name).wordsOr
  obtain ⟨before, after, hname, hbefore, hafter⟩ := exists_argumentName name
  have hsingle := hwords.single_around (wordsOr_ne_nil _) hbefore hafter
  rw [← hname] at hsingle
  rw [argumentWords_of_chars (isArgumentChar_of_mem_argumentName name) hsingle]
  refine trims_iff.mp ⟨⟨before, after, hname, ?_, ?_⟩, hwords.head, hwords.last⟩
  · rcases hbefore with rfl | rfl <;> simp
  · rcases hafter with rfl | rfl <;> simp

/-- The argument name of every parameter is spelled as a name, is neither reserved nor one of the
signature's own, has no doubled underscore, and stays when it is made an argument name again. -/
theorem argumentName_safe (name : String) :
    IsArgument (argumentName name) ∧ argumentName (argumentName name) = argumentName name := by
  have hwords := (isWords_argumentWords name).wordsOr
  have hne := wordsOr_ne_nil (argumentWords name)
  constructor
  · obtain ⟨hkeyword, hown⟩ := freed_free (.ofList (withStart (wordsOr (argumentWords name))))
    rw [← argumentName_eq] at hkeyword hown
    refine ⟨?_, hkeyword, fun h => ?_, fun h => ?_, ?_⟩
    · rw [argumentName_eq]
      exact isSpelled_freed (by simpa using hwords.isSpelled_withStart hne)
    · exact hown (by simp [h, ownArguments])
    · exact hown (by simp [h, ownArguments])
    · obtain ⟨before, after, hname, hbefore, hafter⟩ := exists_argumentName name
      rw [hname]
      exact hwords.single_around hne hbefore hafter
  · rw [argumentName_eq (argumentName name), argumentWords_argumentName, wordsOr_of_ne_nil hne,
      ← argumentName_eq]

example : argumentName "X-Request-ID" = "x_request_id" ∧ argumentName "2nd" = "_2nd" ∧
    argumentName "class" = "class_" := by decide +kernel

end ClientGen.Client
