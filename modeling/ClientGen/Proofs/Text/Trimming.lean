import Mathlib.Data.List.DropRight
import Mathlib.Data.List.TakeWhile

/-!
Trimming: what a list is without the elements of a kind at both ends.
-/
namespace ClientGen.Text

variable {α : Type} {p : α → Bool} {xs core : List α}

/-- How a list is made up of what trimming keeps: it stands between elements of the kind and neither
starts nor ends with one. -/
structure Trims (p : α → Bool) (xs core : List α) : Prop where
  around : ∃ before after, xs = before ++ core ++ after ∧
    (∀ x ∈ before, p x = true) ∧ ∀ x ∈ after, p x = true
  head : ∀ x ∈ core.head?, p x = false
  last : ∀ x ∈ core.getLast?, p x = false

theorem Trims.isInfix (h : Trims p xs core) : core <:+: xs := by
  obtain ⟨before, after, rfl, -⟩ := h.around
  exact ⟨before, after, rfl⟩

theorem rdropWhile_append_of_pos {after : List α} (h : ∀ x ∈ after, p x = true) :
    (xs ++ after).rdropWhile p = xs.rdropWhile p := by
  induction after using List.reverseRecOn with
  | nil => rw [List.append_nil]
  | append_singleton after x ih =>
    rw [List.forall_mem_append, List.forall_mem_singleton] at h
    rw [← List.append_assoc, List.rdropWhile_concat_pos p _ _ h.2, ih h.1]

theorem trims_iff : Trims p xs core ↔ (xs.dropWhile p).rdropWhile p = core := by
  constructor
  · rintro ⟨⟨before, after, rfl, hbefore, hafter⟩, head, last⟩
    rw [List.append_assoc, List.dropWhile_append_of_pos hbefore]
    cases core with
    | nil => rw [List.nil_append, List.dropWhile_eq_nil_iff.mpr hafter, List.rdropWhile_nil]
    | cons x rest =>
      rw [List.cons_append, List.dropWhile_cons_of_neg (by simp [head x rfl]), ← List.cons_append,
        rdropWhile_append_of_pos hafter, List.rdropWhile_eq_self_iff]
      intro hne
      simp [last _ (List.getLast?_eq_getLast_of_ne_nil hne)]
  · rintro rfl
    have hstart := List.takeWhile_append_dropWhile (p := p) (l := xs)
    have hend := List.rdropWhile_append_rtakeWhile (p := p) (l := xs.dropWhile p)
    refine ⟨⟨xs.takeWhile p, (xs.dropWhile p).rtakeWhile p, ?_, fun x => List.mem_takeWhile_imp,
      fun x => List.mem_rtakeWhile_imp⟩, ?_, ?_⟩
    · rw [List.append_assoc, hend, hstart]
    · -- what is kept starts as the list does once its start is dropped
      intro x hx
      obtain ⟨rest, hrest⟩ := List.rdropWhile_prefix p (xs.dropWhile p)
      have hhead : (xs.dropWhile p).head? = some x := by
        rw [← hrest, List.head?_append, Option.mem_def.mp hx]
        rfl
      simpa [hhead] using List.head?_dropWhile_not p xs
    · intro x hx
      have hne : (xs.dropWhile p).rdropWhile p ≠ [] := by
        intro hnil
        simp [hnil] at hx
      have hlast := List.rdropWhile_last_not p (xs.dropWhile p) hne
      rw [List.getLast?_eq_getLast_of_ne_nil hne, Option.mem_some] at hx
      simpa [hx] using hlast

end ClientGen.Text
