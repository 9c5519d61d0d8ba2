import ClientGen.Proofs.Operation.Identity

/-!
How a path and its template begin. A path that starts with a word between slashes has that word as
its first literal; the converse holds for paths that are written as templates write them.
-/
namespace ClientGen

theorem Text.startsWith_iff {s start : String} :
    Text.startsWith s start = true ↔ ∃ rest, s.toList = start.toList ++ rest := by
  rw [Text.startsWith, List.isPrefixOf_iff_prefix]
  constructor
  · rintro ⟨rest, h⟩
    exact ⟨rest, h.symm⟩
  · rintro ⟨rest, h⟩
    exact ⟨rest, h.symm⟩

namespace Kind

theorem name_plain (kind : Kind) :
    kind.name.toList.all (fun c => c != '/' && !Segment.isBrace c) = true := by
  cases kind <;> rfl

theorem name_ne_nil (kind : Kind) : kind.name.toList ≠ [] := by
  cases kind <;> decide

theorem name_injective {a b : Kind} (h : a.name = b.name) : a = b := by
  revert h
  cases a <;> cases b <;> decide

end Kind

namespace PathTemplate

open Outcome

variable {template : PathTemplate} {name : String} {kind : Kind}

theorem kind_eq_ok : template.kind name = .ok kind ↔ template.firstLiteral? = some kind.name := by
  unfold PathTemplate.kind
  constructor
  · intro h
    split at h
    · cases h
    next literal hliteral =>
      split at h
      next found hfound =>
        cases h
        rw [hliteral, Kind.name_of_ofName? hfound]
      · cases h
  · intro h
    simp only [h, Kind.ofName?_name]

theorem pieces_of_word {word rest : List Char} (h : name.toList = '/' :: word ++ '/' :: rest)
    (hslash : '/' ∉ word) (hne : word ≠ []) : ∃ others, pieces name = word :: others := by
  have hsplit : name.toList.splitOn '/' = [] :: word :: rest.splitOn '/' := by
    have hfirst : List.splitOn '/' ([] ++ '/' :: (word ++ '/' :: rest)) =
        [] :: List.splitOn '/' (word ++ '/' :: rest) :=
      List.splitOn_append_cons_self_of_not_mem List.not_mem_nil _
    rw [h, List.cons_append, ← List.nil_append ('/' :: (word ++ '/' :: rest)), hfirst,
      List.splitOn_append_cons_self_of_not_mem hslash]
  refine ⟨(rest.splitOn '/').filter fun piece => !piece.isEmpty, ?_⟩
  have hword : word.isEmpty = false := by simpa using hne
  rw [pieces, hsplit, List.filter_cons_of_neg (by simp), List.filter_cons_of_pos (by simp [hword])]

/-- A path that starts with a plain word between slashes has it as its first literal. -/
theorem firstLiteral?_of_word {word rest : List Char}
    (h : name.toList = '/' :: word ++ '/' :: rest)
    (hplain : word.all (fun c => c != '/' && !Segment.isBrace c) = true) (hne : word ≠ [])
    (hparse : parse name = .ok template) :
    template.firstLiteral? = some (String.ofList word) := by
  have hslash : '/' ∉ word := fun hmem => by
    have hchar := List.all_eq_true.mp hplain '/' hmem
    simp at hchar
  have hbrace : word.any Segment.isBrace = false := by
    rw [List.any_eq_false]
    intro c hc
    have hchar := List.all_eq_true.mp hplain c hc
    simp only [Bool.and_eq_true, Bool.not_eq_true'] at hchar
    simp [hchar.2]
  obtain ⟨others, hpieces⟩ := pieces_of_word h hslash hne
  rw [parse, hpieces, mapM_eq_ok] at hparse
  cases hparse with
  | cons hfirst hrest =>
    simp only [Segment.ofChars?, hbrace, Bool.false_eq_true, if_false] at hfirst
    cases hfirst
    rfl

theorem firstLiteral?_eq_some {word : String} :
    template.firstLiteral? = some word ↔ ∃ rest, template = .literal word :: rest := by
  unfold firstLiteral?
  split <;> simp_all

theorem render_single (segment : Segment) : render [segment] = "/" ++ segment.render := by
  simp [render]

theorem render_cons_cons (segment next : Segment) (rest : List Segment) :
    render (segment :: next :: rest) = "/" ++ segment.render ++ render (next :: rest) := by
  simp [render, String.intercalate_cons_cons, String.append_assoc]

/-- A path written from a template starts with its first literal, which stands alone or before a
slash. -/
theorem render_of_firstLiteral? {word : String} (h : template.firstLiteral? = some word) :
    (template.length = 1 ∧ template.render = "/" ++ word) ∨
      (1 < template.length ∧ Text.startsWith template.render ("/" ++ word ++ "/") = true) := by
  obtain ⟨rest, rfl⟩ := firstLiteral?_eq_some.mp h
  cases rest with
  | nil => exact .inl ⟨rfl, render_single _⟩
  | cons next rest =>
    refine .inr ⟨by simp, ?_⟩
    rw [Text.startsWith_iff, render_cons_cons]
    refine ⟨("/".intercalate ((next :: rest).map Segment.render)).toList, ?_⟩
    simp [render, Segment.render, String.toList_append]

end PathTemplate

end ClientGen
