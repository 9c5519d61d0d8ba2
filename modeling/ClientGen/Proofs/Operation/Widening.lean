import ClientGen.Operation.Selector
import Mathlib.Data.List.Sort
import Mathlib.Data.List.Nodup
import Mathlib.Data.String.Basic

/-!
The pass that gives operations their selectors. An operation keeps its default selector unless an
operation of a lesser path has taken it, and then it has the wide one.
-/
namespace ClientGen

theorem repeated_eq_nil_iff {names : List String} : repeated names = [] ↔ names.Nodup := by
  have hnil : repeated names = [] ↔ names.filter (fun name => 1 < names.count name) = [] := by
    constructor
    · intro h
      apply List.eq_nil_iff_forall_not_mem.mpr
      intro name hname
      have : name ∈ repeated names := by
        simpa [repeated] using List.mem_filter.mp hname
      simp [h] at this
    · intro h
      simp [repeated, h]
  rw [hnil, List.filter_eq_nil_iff, List.nodup_iff_count_le_one]
  constructor
  · intro h name
    by_cases hname : name ∈ names
    · simpa using h name hname
    · simp [List.count_eq_zero_of_not_mem hname]
  · intro h name _
    simpa using h name

theorem nodup_eraseDups (names : List String) : names.eraseDups.Nodup := by
  induction hlength : names.length using Nat.strong_induction_on generalizing names with
  | _ length ih =>
    cases names with
    | nil => exact List.nodup_nil
    | cons name rest =>
      rw [List.eraseDups_cons]
      refine List.nodup_cons.mpr ⟨fun hmem => ?_, ?_⟩
      · have hkept := List.mem_eraseDups.mp hmem
        simp at hkept
      · have hle := List.length_filter_le (fun other => !other == name) rest
        refine ih _ ?_ _ rfl
        rw [← hlength, List.length_cons]
        omega

/-- Texts of which each is left once stand in strictly ascending order after sorting. -/
theorem ascending_mergeSort_eraseDups (names : List String) :
    (names.eraseDups.mergeSort fun a b => a ≤ b).Pairwise (fun a b => a < b) := by
  have hsorted : (names.eraseDups.mergeSort fun a b => a ≤ b).Pairwise
      (fun a b => decide (a ≤ b) = true) := by
    apply List.pairwise_mergeSort
    · intro a b c hab hbc
      simp only [decide_eq_true_eq] at hab hbc ⊢
      exact String.le_trans hab hbc
    · intro a b
      simpa using String.le_total a b
  have hnodup : (names.eraseDups.mergeSort fun a b => a ≤ b).Nodup :=
    (List.mergeSort_perm _ _).nodup_iff.mpr (nodup_eraseDups names)
  exact hsorted.imp₂ (fun a b hle hne => lt_of_le_of_ne (by simpa using hle) hne) hnodup

namespace Operation

/-- The selector that an operation has unless another has taken it. -/
def defaultSelector (operation : Operation) : String :=
  Selector.of operation.template operation.okResponse false

/-- An operation after its turn, when some selectors are taken. -/
def settled (taken : List String) (operation : Operation) : Operation :=
  if taken.contains operation.selector then { operation with selector := operation.wideSelector }
  else operation

theorem settled_of_mem {taken : List String} {operation : Operation}
    (h : operation.selector ∈ taken) :
    settled taken operation = { operation with selector := operation.wideSelector } := by
  simp [settled, h]

theorem settled_of_not_mem {taken : List String} {operation : Operation}
    (h : operation.selector ∉ taken) : settled taken operation = operation := by
  simp [settled, h]

/-- A turn changes nothing but the selector. -/
theorem settled_eq (taken : List String) (operation : Operation) :
    settled taken operation =
      { operation with selector := (settled taken operation).selector } := by
  unfold settled
  split <;> rfl

@[simp] theorem settled_path (taken : List String) (operation : Operation) :
    (settled taken operation).path = operation.path := by
  rw [settled_eq]

@[simp] theorem settled_defaultSelector (taken : List String) (operation : Operation) :
    (settled taken operation).defaultSelector = operation.defaultSelector := by
  rw [settled_eq]
  rfl

@[simp] theorem settled_wideSelector (taken : List String) (operation : Operation) :
    (settled taken operation).wideSelector = operation.wideSelector := by
  rw [settled_eq]
  rfl

theorem widen_cons (taken : List String) (operation : Operation) (rest : List Operation) :
    widen taken (operation :: rest) =
      settled taken operation ::
        widen ((settled taken operation).selector :: taken) rest := rfl

/-- The selectors that are taken after some operations had their turn. -/
def takenAfter (taken : List String) (operations : List Operation) : List String :=
  ((widen taken operations).map (·.selector)).reverse ++ taken

/-- What comes later does not reach what came before. -/
theorem widen_append (taken : List String) (before after : List Operation) :
    widen taken (before ++ after) =
      widen taken before ++ widen (takenAfter taken before) after := by
  induction before generalizing taken with
  | nil => simp [widen, takenAfter]
  | cons operation rest ih =>
    rw [List.cons_append, widen_cons, widen_cons, ih]
    simp [takenAfter, widen_cons]

theorem widen_map_path (taken : List String) (operations : List Operation) :
    (widen taken operations).map (·.path) = operations.map (·.path) := by
  induction operations generalizing taken with
  | nil => rfl
  | cons operation rest ih => simp [widen_cons, ih]

/-- Each operation that comes out had its turn after those before it. -/
theorem mem_widen {taken : List String} {operations : List Operation} {operation : Operation}
    (h : operation ∈ widen taken operations) :
    ∃ before source after, operations = before ++ source :: after ∧
      operation = settled (takenAfter taken before) source := by
  induction operations generalizing taken with
  | nil => simp [widen] at h
  | cons first rest ih =>
    rw [widen_cons, List.mem_cons] at h
    rcases h with rfl | h
    · exact ⟨[], first, rest, rfl, by simp [takenAfter, widen]⟩
    · obtain ⟨before, source, after, rfl, rfl⟩ := ih h
      refine ⟨first :: before, source, after, rfl, ?_⟩
      simp [takenAfter, widen_cons]

theorem sortByPath_perm (operations : List Operation) :
    (sortByPath operations).Perm operations := List.mergeSort_perm _ _

theorem sortByPath_pairwise (operations : List Operation) :
    (sortByPath operations).Pairwise (fun a b => a.path ≤ b.path) := by
  have hsorted : (sortByPath operations).Pairwise (fun a b => decide (a.path ≤ b.path) = true) := by
    apply List.pairwise_mergeSort
    · intro a b c hab hbc
      simp only [decide_eq_true_eq] at hab hbc ⊢
      exact String.le_trans hab hbc
    · intro a b
      simpa using String.le_total a.path b.path
  exact hsorted.imp fun h => by simpa using h

/-- Operations of distinct paths are put in strictly ascending order. -/
theorem sortByPath_strict {operations : List Operation}
    (distinct : (operations.map (·.path)).Nodup) :
    (sortByPath operations).Pairwise (fun a b => a.path < b.path) := by
  have hnodup : ((sortByPath operations).map (·.path)).Nodup :=
    ((sortByPath_perm operations).map _).nodup_iff.mpr distinct
  rw [List.Nodup, List.pairwise_map] at hnodup
  exact (sortByPath_pairwise operations).imp₂
    (fun a b hle hne => lt_of_le_of_ne hle hne) hnodup

theorem sort_perm (operations : List Operation) : (sort operations).Perm operations :=
  List.mergeSort_perm _ _

/-- Operations of distinct selectors are put in strictly ascending order of these. -/
theorem sort_strict {operations : List Operation}
    (distinct : (operations.map (·.selector)).Nodup) :
    (sort operations).Pairwise (fun a b => a.selector < b.selector) := by
  have hnodup : ((sort operations).map (·.selector)).Nodup :=
    ((sort_perm operations).map _).nodup_iff.mpr distinct
  rw [List.Nodup, List.pairwise_map] at hnodup
  have hsorted : (sort operations).Pairwise (fun a b => precedes a b = true) := by
    apply List.pairwise_mergeSort
    · intro a b c hab hbc
      simp only [precedes, Bool.or_eq_true, Bool.and_eq_true, decide_eq_true_eq,
        beq_iff_eq] at hab hbc ⊢
      rcases hab with hab | ⟨hab, hmab⟩
      · rcases hbc with hbc | ⟨hbc, -⟩
        · exact .inl (lt_trans hab hbc)
        · exact .inl (hbc ▸ hab)
      · rcases hbc with hbc | ⟨hbc, hmbc⟩
        · exact .inl (hab ▸ hbc)
        · exact .inr ⟨hab.trans hbc, String.le_trans hmab hmbc⟩
    · intro a b
      simp only [precedes, Bool.or_eq_true, Bool.and_eq_true, decide_eq_true_eq, beq_iff_eq]
      rcases lt_trichotomy a.selector b.selector with h | h | h
      · exact .inl (.inl h)
      · rcases String.le_total a.method.name b.method.name with hm | hm
        · exact .inl (.inr ⟨h, hm⟩)
        · exact .inr (.inr ⟨h.symm, hm⟩)
      · exact .inr (.inl h)
  refine hsorted.imp₂ (fun a b hle hne => ?_) hnodup
  simp only [precedes, Bool.or_eq_true, Bool.and_eq_true, decide_eq_true_eq, beq_iff_eq] at hle
  rcases hle with hlt | ⟨heq, -⟩
  · exact hlt
  · exact absurd heq hne

/-- The pass succeeds exactly when the selectors are distinct after it. -/
theorem assignSelectors_eq_ok {method : Method} {operations assigned : List Operation} :
    assignSelectors method operations = .ok assigned ↔
      assigned = widen [] (sortByPath operations) ∧ (assigned.map (·.selector)).Nodup := by
  unfold assignSelectors
  constructor
  · intro h
    dsimp only at h
    split at h
    next hnone =>
      cases h
      exact ⟨rfl, repeated_eq_nil_iff.mp hnone⟩
    · cases h
  · rintro ⟨rfl, hnodup⟩
    simp [repeated_eq_nil_iff.mpr hnodup]

/-- In a pass over operations of ascending paths that ends with distinct selectors, those that lose
their default selector are those for which one before holds it at the end. -/
theorem selector_of_mem_widen {operations : List Operation}
    (ascending : operations.Pairwise (fun a b => a.path < b.path))
    (defaults : ∀ source ∈ operations, source.selector = source.defaultSelector)
    (distinct : ((widen [] operations).map (·.selector)).Nodup)
    {operation : Operation} (h : operation ∈ widen [] operations) :
    (operation.selector ≠ operation.defaultSelector ↔
      ∃ other ∈ widen [] operations,
        other.path < operation.path ∧ other.selector = operation.defaultSelector) ∧
    (operation.selector ≠ operation.defaultSelector →
      operation.selector = operation.wideSelector) := by
  obtain ⟨before, source, after, rfl, rfl⟩ := mem_widen h
  have hdefault : source.selector = source.defaultSelector := defaults source (by simp)
  -- the operations of lesser paths are those that had their turn before
  have hbefore : ∀ other ∈ widen [] (before ++ source :: after),
      other.path < source.path → other ∈ widen [] before := by
    intro other hother hless
    rw [widen_append, List.mem_append] at hother
    rcases hother with hother | hother
    · exact hother
    · have hpath : other.path ∈ (source :: after).map (·.path) := by
        rw [← widen_map_path (takenAfter [] before)]
        exact List.mem_map_of_mem hother
      obtain ⟨later, hlater, heq⟩ := List.mem_map.mp hpath
      rcases List.mem_cons.mp hlater with rfl | hlater
      · exact absurd (heq ▸ hless) (lt_irrefl _)
      · have hlt : source.path < later.path :=
          (List.pairwise_cons.mp (List.pairwise_append.mp ascending).2.1).1 later hlater
        rw [heq] at hlt
        exact absurd (hlt.trans hless) (lt_irrefl _)
  by_cases htaken : source.selector ∈ takenAfter [] before
  · have hmem : ∃ other ∈ widen [] before, other.selector = source.selector := by
      simpa [takenAfter] using htaken
    obtain ⟨other, hother, hsame⟩ := hmem
    have hless : other.path < source.path := by
      have hpath : other.path ∈ before.map (·.path) := by
        rw [← widen_map_path []]
        exact List.mem_map_of_mem hother
      obtain ⟨earlier, hearlier, heq⟩ := List.mem_map.mp hpath
      exact heq ▸ (List.pairwise_append.mp ascending).2.2 earlier hearlier source (by simp)
    have hwide : (settled (takenAfter [] before) source).selector = source.wideSelector := by
      rw [settled_of_mem htaken]
    have hne : source.wideSelector ≠ source.defaultSelector := by
      intro heq
      rw [widen_append, widen_cons, List.map_append, List.map_cons, hwide] at distinct
      have hdisjoint := (List.nodup_append.mp distinct).2.2
      refine hdisjoint other.selector (List.mem_map_of_mem hother) source.wideSelector
        List.mem_cons_self ?_
      rw [hsame, hdefault, heq]
    refine ⟨⟨fun _ => ⟨other, ?_, ?_, ?_⟩, fun _ => ?_⟩, fun _ => ?_⟩
    · rw [widen_append]
      exact List.mem_append_left _ hother
    · simpa using hless
    · simpa [hsame] using hdefault
    · simpa [hwide] using hne
    · simpa using hwide
  · rw [settled_of_not_mem htaken]
    refine ⟨⟨fun hne => absurd hdefault hne, ?_⟩, fun hne => absurd hdefault hne⟩
    rintro ⟨other, hother, hless, hsame⟩
    refine absurd ?_ htaken
    have hmem := hbefore other hother hless
    rw [takenAfter, List.append_nil, List.mem_reverse, hdefault, ← hsame]
    exact List.mem_map_of_mem hmem

end Operation

end ClientGen
