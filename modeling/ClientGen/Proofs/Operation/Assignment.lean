import ClientGen.Proofs.Operation.Collection
import Mathlib.Data.List.Duplicate
import Mathlib.Data.List.Induction

/-!
Selectors do not depend on the order in which operations are given. Operations of distinct paths
have one order of paths, and going through it one by one has one outcome; the pass fails exactly
when two operations end with the same selector, and then it tells all such selectors.
-/
namespace ClientGen

theorem mem_repeated_iff {names : List String} {name : String} :
    name ∈ repeated names ↔ List.Duplicate name names := by
  rw [List.duplicate_iff_two_le_count]
  simp only [repeated, List.mem_mergeSort, List.mem_eraseDups, List.mem_filter, decide_eq_true_eq]
  refine ⟨fun h => h.2, fun h => ⟨?_, h⟩⟩
  exact List.count_pos_iff.mp (Nat.lt_of_lt_of_le Nat.zero_lt_two h)

theorem ascending_repeated (names : List String) :
    (repeated names).Pairwise (fun a b => a < b) :=
  ascending_mergeSort_eraseDups _

namespace Operation

variable {operations others assigned : List Operation} {method : Method}

/-- What comes of operations that take selectors one after another. Each one keeps its own, unless
one before ended with that; then it has the wide one. -/
inductive Greedy : List Operation → List Operation → Prop
  | nil : Greedy [] []
  | keeps {before assigned : List Operation} {operation : Operation} (pass : Greedy before assigned)
      (free : ∀ other ∈ assigned, other.selector ≠ operation.selector) :
      Greedy (before ++ [operation]) (assigned ++ [operation])
  | widens {before assigned : List Operation} {operation other : Operation}
      (pass : Greedy before assigned) (taken : other ∈ assigned)
      (same : other.selector = operation.selector) :
      Greedy (before ++ [operation])
        (assigned ++ [{ operation with selector := operation.wideSelector }])

theorem mem_takenAfter {selector : String} :
    selector ∈ takenAfter [] operations ↔
      ∃ other ∈ widen [] operations, other.selector = selector := by
  simp [takenAfter]

theorem widen_concat (before : List Operation) (operation : Operation) :
    widen [] (before ++ [operation]) =
      widen [] before ++ [settled (takenAfter [] before) operation] := widen_append [] before _

/-- The pass takes selectors one after another, and that has no other outcome. -/
theorem greedy_iff : Greedy operations assigned ↔ assigned = widen [] operations := by
  constructor
  · intro pass
    induction pass with
    | nil => rfl
    | keeps _ free ih =>
      rw [widen_concat, ← ih, settled_of_not_mem]
      rw [mem_takenAfter, ← ih]
      rintro ⟨other, hother, hsame⟩
      exact free other hother hsame
    | widens _ taken same ih =>
      rw [widen_concat, ← ih, settled_of_mem]
      rw [mem_takenAfter, ← ih]
      exact ⟨_, taken, same⟩
  · rintro rfl
    induction operations using List.reverseRecOn with
    | nil => exact .nil
    | append_singleton before operation ih =>
      rw [widen_concat]
      by_cases htaken : operation.selector ∈ takenAfter [] before
      · obtain ⟨other, hother, hsame⟩ := mem_takenAfter.mp htaken
        rw [settled_of_mem htaken]
        exact .widens ih hother hsame
      · rw [settled_of_not_mem htaken]
        exact .keeps ih fun other hother hsame =>
          htaken (mem_takenAfter.mpr ⟨other, hother, hsame⟩)

/-- Operations of distinct paths are put in the same order, in whichever they are given. -/
theorem sortByPath_of_perm (perm : operations.Perm others)
    (distinct : (operations.map (·.path)).Nodup) :
    sortByPath operations = sortByPath others := by
  have hothers : (others.map (·.path)).Nodup := (perm.map _).nodup_iff.mp distinct
  refine List.Perm.eq_of_pairwise (fun a b _ _ hab hba => ?_) (sortByPath_strict distinct)
    (sortByPath_strict hothers) ?_
  · exact absurd (String.lt_trans hab hba) (String.lt_irrefl _)
  · exact ((sortByPath_perm operations).trans perm).trans (sortByPath_perm others).symm

/-- The pass fails with the selectors that are left twice, if there are any. -/
theorem assignSelectors_eq_error {failure : Failure} :
    assignSelectors method operations = .error failure ↔
      repeated ((widen [] (sortByPath operations)).map (·.selector)) ≠ [] ∧
        failure = .duplicateSelectors method
          (repeated ((widen [] (sortByPath operations)).map (·.selector))) := by
  unfold assignSelectors
  dsimp only
  generalize repeated ((widen [] (sortByPath operations)).map (·.selector)) = duplicates
  cases duplicates with
  | nil => simp
  | cons selector rest =>
    simp only [Except.error.injEq, ne_eq, reduceCtorEq, not_false_eq_true, true_and]
    exact eq_comm

/-- Operations of distinct paths are given the same selectors in whichever order they are listed, or
the same failure. The selectors are those that the operations take one after another in the order of
their paths; the failure tells, in ascending order and each once, the selectors that two operations
have taken, and there is none only if no two have the same. -/
theorem assignSelectors_of_perm (perm : operations.Perm others)
    (distinct : (operations.map (·.path)).Nodup) (method : Method) :
    assignSelectors method operations = assignSelectors method others ∧
    ∃ ordered assigned, ordered.Perm operations ∧
      ordered.Pairwise (fun a b => a.path < b.path) ∧
      (∀ outcome, Greedy ordered outcome ↔ outcome = assigned) ∧
      (∀ found, assignSelectors method operations = .ok found ↔
        found = assigned ∧ (assigned.map (·.selector)).Nodup) ∧
      ∀ failure, assignSelectors method operations = .error failure ↔
        ∃ duplicates, failure = .duplicateSelectors method duplicates ∧
          (∃ selector, List.Duplicate selector (assigned.map (·.selector))) ∧
          duplicates.Pairwise (fun a b => a < b) ∧
          ∀ selector, selector ∈ duplicates ↔
            List.Duplicate selector (assigned.map (·.selector)) := by
  have hsorted := sortByPath_of_perm perm distinct
  refine ⟨by rw [assignSelectors, assignSelectors, hsorted], sortByPath operations, _,
    sortByPath_perm operations, sortByPath_strict distinct, fun _ => greedy_iff,
    fun found => ?_, fun failure => ?_⟩
  · rw [assignSelectors_eq_ok]
    constructor
    · rintro ⟨rfl, hnodup⟩
      exact ⟨rfl, hnodup⟩
    · rintro ⟨rfl, hnodup⟩
      exact ⟨rfl, hnodup⟩
  · rw [assignSelectors_eq_error]
    generalize (widen [] (sortByPath operations)).map (·.selector) = selectors
    constructor
    · rintro ⟨hne, rfl⟩
      obtain ⟨selector, hselector⟩ := List.exists_mem_of_ne_nil _ hne
      exact ⟨_, rfl, ⟨selector, mem_repeated_iff.mp hselector⟩, ascending_repeated _,
        fun _ => mem_repeated_iff⟩
    · rintro ⟨duplicates, rfl, ⟨selector, hselector⟩, hascending, hlisted⟩
      have hsame : duplicates = repeated selectors :=
        hascending.eq_of_mem_iff (ascending_repeated _) fun other => by
          rw [hlisted, mem_repeated_iff]
      exact ⟨List.ne_nil_of_mem (mem_repeated_iff.mpr hselector), by rw [hsame]⟩

/-- Operations on buckets in the order of their paths. The last one loses its selector to the first,
and the wide one that it has then is the selector of the second. -/
def narrowReads : List Operation := [
  sampleOperation .get "/allocation/\x7btenant\x7d/bucket"
    [.literal "allocation", .placeholder "tenant", .literal "bucket"] "get_bucket" "bucket",
  sampleOperation .get "/allocation/\x7btenant\x7d/bucket-id"
    [.literal "allocation", .placeholder "tenant", .literal "bucket-id"] "get_bucket_id"
    "bucket-id",
  sampleOperation .get "/allocation/\x7btenant\x7d/bucket/\x7bid\x7d"
    [.literal "allocation", .placeholder "tenant", .literal "bucket", .placeholder "id"]
    "get_bucket_by_id" "bucket"]

theorem assignSelectors_of_perm_narrow :
    narrowReads.reverse.Perm narrowReads ∧ (narrowReads.reverse.map (·.path)).Nodup ∧
    assignSelectors .get narrowReads.reverse = assignSelectors .get narrowReads ∧
    assignSelectors .get narrowReads.reverse =
      .error (.duplicateSelectors .get ["bucket-id"]) := by
  have perm : narrowReads.reverse.Perm narrowReads := List.reverse_perm _
  have distinct : (narrowReads.reverse.map (·.path)).Nodup := by decide +kernel
  obtain ⟨hsame, ordered, assigned, hperm, hascending, hgreedy, -, hfailure⟩ :=
    assignSelectors_of_perm perm distinct .get
  have hnarrow : narrowReads.Pairwise (fun a b => a.path < b.path) := by decide +kernel
  have hordered : ordered = narrowReads :=
    (hperm.trans perm).eq_of_pairwise
      (fun _ _ _ _ hab hba => absurd (String.lt_trans hab hba) (String.lt_irrefl _))
      hascending hnarrow
  have hselectors : assigned.map (·.selector) = ["bucket", "bucket-id", "bucket-id"] := by
    rw [← (hgreedy _).mp (greedy_iff.mpr rfl), hordered]
    decide +kernel
  refine ⟨perm, distinct, hsame, (hfailure _).mpr ⟨["bucket-id"], rfl, ?_⟩⟩
  have hshared : ∀ selector, List.Duplicate selector (assigned.map (·.selector)) ↔
      selector = "bucket-id" := by
    simp [hselectors, List.duplicate_cons_iff, @eq_comm _ "bucket-id"]
  simp only [hshared, List.mem_singleton]
  exact ⟨⟨_, rfl⟩, List.pairwise_singleton _ _, fun _ => trivial⟩

end Operation

end ClientGen
