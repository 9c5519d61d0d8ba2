import Mathlib.Data.List.Infix
import Mathlib.Data.List.TakeWhile

/-!
The pieces between the separators of a list. They are known by two facts: no piece has the
separator, and joined they are the list again.
-/
namespace ClientGen.Text

variable {α : Type} {a : α} {xs piece : List α}

/-- A run of elements of a kind ends where one of another kind stands. -/
theorem append_inj_of_stop {p : α → Bool} {word word' rest rest' : List α}
    (hword : ∀ x ∈ word, p x = true) (hword' : ∀ x ∈ word', p x = true)
    (stop : ∀ x ∈ rest.head?, p x = false) (stop' : ∀ x ∈ rest'.head?, p x = false)
    (h : word ++ rest = word' ++ rest') : word = word' ∧ rest = rest' := by
  have hrun : ∀ {word rest : List α}, (∀ x ∈ word, p x = true) →
      (∀ x ∈ rest.head?, p x = false) → (word ++ rest).takeWhile p = word := by
    intro word rest hword stop
    rw [List.takeWhile_append_of_pos hword]
    cases rest with
    | nil => simp
    | cons x rest => simp [stop x rfl]
  have hsame := congrArg (List.takeWhile p) h
  rw [hrun hword stop, hrun hword' stop'] at hsame
  subst hsame
  exact ⟨rfl, List.append_cancel_left h⟩

/-- Before one more separator two of them follow each other, or the list ends with one. -/
theorem pair_infix_concat_iff : [a, a] <:+: xs ++ [a] ↔ xs.getLast? = some a ∨ [a, a] <:+: xs := by
  have hlast : [a, a] <:+ xs ++ [a] ↔ xs.getLast? = some a := by
    rw [← List.singleton_suffix_iff_getLast?_eq_some, List.suffix_concat_iff]
    constructor
    · rintro (h | ⟨before, hbefore, hlast⟩)
      · cases h
      · have hsame : [a] = before :=
          List.append_cancel_right (show [a] ++ [a] = before ++ [a] from hbefore)
        rwa [hsame]
    · exact fun h => .inr ⟨[a], rfl, h⟩
  rw [List.infix_concat_iff, hlast]

theorem prefix_append_cons_iff {x : α} {l ys : List α} (h : x ∉ l) :
    l <+: xs ++ x :: ys ↔ l <+: xs := by
  induction xs generalizing l with
  | nil =>
    cases l with
    | nil => simp
    | cons y l =>
      have hne : y ≠ x := fun hsame => h (hsame ▸ List.mem_cons_self)
      simp [List.cons_prefix_cons, hne]
  | cons z xs ih =>
    cases l with
    | nil => simp
    | cons y l =>
      have hrest : x ∉ l := fun hmem => h (List.mem_cons_of_mem _ hmem)
      rw [List.cons_append, List.cons_prefix_cons, List.cons_prefix_cons, ih hrest]

/-- What stands around an element that a list does not have holds the list on one of its sides. -/
theorem infix_append_cons_iff {x : α} {l ys : List α} (h : x ∉ l) :
    l <:+: xs ++ x :: ys ↔ l <:+: xs ∨ l <:+: ys := by
  induction xs with
  | nil =>
    have hnil : l <+: x :: ys ↔ l = [] := by
      rw [← List.nil_append (x :: ys), prefix_append_cons_iff h, List.prefix_nil]
    rw [List.nil_append, List.infix_cons_iff, hnil, List.infix_nil]
  | cons z xs ih =>
    rw [List.cons_append, List.infix_cons_iff, ih, ← List.cons_append, prefix_append_cons_iff h,
      List.infix_cons_iff, or_assoc]

theorem not_of_mem_splitOnP {p : α → Bool} (h : piece ∈ xs.splitOnP p) :
    ∀ x ∈ piece, p x = false := by
  induction xs generalizing piece with
  | nil =>
    rw [List.splitOnP_nil, List.mem_singleton] at h
    simp [h]
  | cons x rest ih =>
    rw [List.splitOnP_cons_eq_if_modifyHead] at h
    obtain ⟨head, tail, hsplit⟩ := List.exists_cons_of_ne_nil (List.splitOnP_ne_nil p rest)
    rw [hsplit] at ih h
    split_ifs at h with hx
    · rcases List.mem_cons.mp h with rfl | hlater
      · simp
      · exact ih hlater
    · rw [List.modifyHead_cons] at h
      rcases List.mem_cons.mp h with rfl | hlater
      · simpa [hx] using ih List.mem_cons_self
      · exact ih (List.mem_cons_of_mem _ hlater)

variable [BEq α] [LawfulBEq α]

theorem not_mem_of_mem_splitOn (h : piece ∈ xs.splitOn a) : a ∉ piece := by
  intro hmem
  simpa using not_of_mem_splitOnP h a hmem

/-- The pieces of a list are those that give it when they are joined. -/
theorem splitOn_eq_iff {pieces : List (List α)} : xs.splitOn a = pieces ↔
    pieces ≠ [] ∧ (∀ piece ∈ pieces, a ∉ piece) ∧ [a].intercalate pieces = xs := by
  constructor
  · rintro rfl
    exact ⟨List.splitOn_ne_nil a xs, fun _ => not_mem_of_mem_splitOn, List.intercalate_splitOn a⟩
  · rintro ⟨hne, hfree, rfl⟩
    exact List.splitOn_intercalate a hfree hne

/-- The first piece is empty where the list starts with a separator, or has no elements. -/
theorem head?_splitOn_eq_nil_iff : (xs.splitOn a).head? = some [] ↔ [a] <+: xs ++ [a] := by
  cases xs with
  | nil => simp
  | cons x xs =>
    rw [List.splitOn_cons_eq_if_modifyHead, List.cons_append, List.cons_prefix_cons]
    obtain ⟨first, rest, hpieces⟩ := List.exists_cons_of_ne_nil (List.splitOn_ne_nil a xs)
    by_cases hx : x = a
    · simp [hx]
    · simp [hx, Ne.symm hx, hpieces]

/-- A later piece is empty where two separators follow each other, or one is last. -/
theorem nil_mem_tail_splitOn_iff : [] ∈ (xs.splitOn a).tail ↔ [a, a] <:+: xs ++ [a] := by
  induction xs with
  | nil => simp [List.infix_cons_iff]
  | cons x xs ih =>
    rw [List.splitOn_cons_eq_if_modifyHead, List.cons_append, List.infix_cons_iff,
      List.cons_prefix_cons, ← ih, ← head?_splitOn_eq_nil_iff]
    obtain ⟨first, rest, hpieces⟩ := List.exists_cons_of_ne_nil (List.splitOn_ne_nil a xs)
    by_cases hx : x = a
    · simp [hx, hpieces, eq_comm]
    · simp [hx, Ne.symm hx, hpieces]

theorem nil_mem_splitOn_iff : [] ∈ xs.splitOn a ↔ [a, a] <:+: a :: xs ++ [a] := by
  rw [List.cons_append, List.infix_cons_iff, List.cons_prefix_cons, ← nil_mem_tail_splitOn_iff,
    ← head?_splitOn_eq_nil_iff]
  obtain ⟨first, rest, hpieces⟩ := List.exists_cons_of_ne_nil (List.splitOn_ne_nil a xs)
  simp [hpieces, eq_comm]

end ClientGen.Text
