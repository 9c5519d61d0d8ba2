import ClientGen.TypeExpression
import Mathlib.Tactic.SplitIfs

/-!
Which texts are refused as type expressions. A character that no piece of an expression has is an
error wherever it is read, so a text with one is refused unless a comment or the end of a joined
line hides it.
-/
namespace ClientGen

namespace TypeExpression

namespace Scan

variable {scan next : Scan} {c : Char} {tokens : List Token}

/-- Whether the next character is read as code: it stands in no comment and does not follow a
backslash. -/
structure InCode (scan : Scan) : Prop where
  comment : scan.comment = false
  joining : scan.joining ≠ .backslash

theorem inCode_start : InCode start := ⟨rfl, by decide⟩

/-- Whether a character can stand in no piece of an expression and between none. -/
def IsForeign (c : Char) : Prop :=
  isNameChar c = false ∧
    c ∉ [' ', '\t', '\x0c', '\n', '\r', '#', '\\', ',', '(', '[', ')', ']']

instance (c : Char) : Decidable (IsForeign c) := inferInstanceAs (Decidable (_ ∧ _))

theorem isForeign_dollar : IsForeign '$' := by decide

theorem stepWithin_foreign (foreign : IsForeign c) : scan.stepWithin c = none := by
  obtain ⟨hname, hchar⟩ := foreign
  simp only [List.mem_cons, List.not_mem_nil, or_false, not_or] at hchar
  simp [stepWithin, hname, hchar]

theorem stepMargin_foreign (foreign : IsForeign c) (column joined : Nat) :
    scan.stepMargin column joined c = none := by
  have hwithin : scan.stepWithin c = none := stepWithin_foreign foreign
  obtain ⟨-, hchar⟩ := foreign
  simp only [List.mem_cons, List.not_mem_nil, or_false, not_or] at hchar
  simp [stepMargin, hwithin, hchar]

theorem step_of_inCode (code : InCode scan) (c : Char) :
    scan.step c = match scan.margin with
      | some (column, joined) => stepMargin { scan with joining := .none } column joined c
      | none => stepWithin { scan with joining := .none } c := by
  obtain ⟨hcomment, hjoining⟩ := code
  unfold step
  split
  next hback => exact absurd hback hjoining
  · cases scan.margin <;> simp only [hcomment, Bool.false_eq_true, if_false]

theorem step_foreign (code : InCode scan) (foreign : IsForeign c) : scan.step c = none := by
  rw [step_of_inCode code]
  split
  · exact stepMargin_foreign foreign ..
  · exact stepWithin_foreign foreign

theorem inCode_of_stepWithin (code : InCode scan) (hash : c ≠ '#') (backslash : c ≠ '\\')
    (h : scan.stepWithin c = some (next, tokens)) : InCode next := by
  unfold stepWithin at h
  dsimp only at h
  split at h
  · cases h
    exact ⟨code.comment, code.joining⟩
  · cases hname : ({ scan with margin := none } : Scan).name? with
    | none => simp [hname] at h
    | some names =>
      simp only [hname, beq_iff_eq, hash, backslash, if_false, Option.bind_eq_bind,
        Option.bind_some] at h
      split_ifs at h <;> cases h <;> exact ⟨code.comment, code.joining⟩

theorem inCode_of_stepMargin (code : InCode scan) (hash : c ≠ '#') (backslash : c ≠ '\\')
    {column joined : Nat} (h : scan.stepMargin column joined c = some (next, tokens)) :
    InCode next := by
  simp only [stepMargin, beq_iff_eq, hash, backslash, if_false] at h
  split_ifs at h
  iterate 4
    cases h
    exact ⟨code.comment, code.joining⟩
  exact inCode_of_stepWithin code hash backslash h

/-- Only a hash and a backslash hide what follows them. -/
theorem inCode_of_step (code : InCode scan) (hash : c ≠ '#') (backslash : c ≠ '\\')
    (h : scan.step c = some (next, tokens)) : InCode next := by
  have hcode : InCode { scan with joining := .none } := ⟨code.comment, nofun⟩
  rw [step_of_inCode code] at h
  split at h
  · exact inCode_of_stepMargin hcode hash backslash h
  · exact inCode_of_stepWithin hcode hash backslash h

end Scan

open Scan

variable {before : List Char} {c : Char}

/-- A foreign character in code is refused, whatever follows it. -/
theorem scanFrom?_foreign {scan : Scan} (code : InCode scan)
    (shown : ∀ d ∈ before, d ≠ '#' ∧ d ≠ '\\') (foreign : IsForeign c) (rest : List Char) :
    scanFrom? scan (before ++ c :: rest) = none := by
  induction before generalizing scan with
  | nil => simp [scanFrom?, step_foreign code foreign]
  | cons d before ih =>
    rw [List.cons_append, scanFrom?]
    cases hstep : scan.step d with
    | none => rfl
    | some result =>
      obtain ⟨next, tokens⟩ := result
      obtain ⟨⟨hash, backslash⟩, hrest⟩ := List.forall_mem_cons.mp shown
      simp [ih (inCode_of_step code hash backslash hstep) hrest]

theorem unifyLineEnds_append (plain : '\r' ∉ before) (hc : c ≠ '\r') (rest : List Char) :
    Text.unifyLineEnds (before ++ c :: rest) = before ++ c :: Text.unifyLineEnds rest := by
  induction before with
  | nil =>
    rw [List.nil_append, Text.unifyLineEnds.eq_def]
    split <;> simp_all
  | cons d before ih =>
    simp only [List.mem_cons, not_or] at plain
    rw [List.cons_append, Text.unifyLineEnds.eq_def]
    split <;> simp_all

/-- The characters that hide others or are read together with them. -/
def hidingChars : List Char := ['#', '\\', '\r']

/-- A text with a foreign character before anything that could hide it is no type expression. -/
theorem parse?_foreign {before : String} (shown : ∀ d ∈ before.toList, d ∉ hidingChars)
    (foreign : IsForeign c) (after : String) :
    parse? (before ++ (String.singleton c ++ after)) = none := by
  have hreturn : c ≠ '\r' := by
    rintro rfl
    exact absurd foreign (by decide)
  have hplain : '\r' ∉ before.toList := fun hmem => shown _ hmem (by decide)
  have hshown : ∀ d ∈ before.toList, d ≠ '#' ∧ d ≠ '\\' := by
    intro d hmem
    have := shown d hmem
    simp only [hidingChars, List.mem_cons, not_or] at this
    exact ⟨this.1, this.2.1⟩
  have hscan : scan? (before ++ (String.singleton c ++ after)).toList = none := by
    rw [String.toList_append, String.toList_append, String.toList_singleton, List.singleton_append]
    unfold scan?
    split
    · rfl
    · rw [unifyLineEnds_append hplain hreturn, scanFrom?_foreign inCode_start hshown foreign]
  rw [parse?, hscan]
  rfl

end TypeExpression

end ClientGen
