import ClientGen.PathTemplate
import ClientGen.Proofs.Outcome
import ClientGen.Proofs.Text.Pieces

/-!
Reading and writing path templates. A path is read exactly when each of its pieces writes a segment;
what is written from a template is read back, and a path is what its own template is written as
exactly when it has one slash before each piece and none elsewhere.
-/
namespace ClientGen

open Outcome

namespace Segment

variable {segment : Segment} {piece : List Char}

/-- The texts that write a segment: those without braces, and names without braces inside of one
pair. -/
inductive Writes : List Char → Segment → Prop
  | literal {text : List Char} (free : ∀ c ∈ text, isBrace c = false) :
      Writes text (.literal (.ofList text))
  | placeholder {name : List Char} (nonempty : name ≠ [])
      (free : ∀ c ∈ name, isBrace c = false) :
      Writes ('\x7b' :: name ++ ['\x7d']) (.placeholder (.ofList name))

/-- A segment whose value has characters, but no slash and no brace. -/
structure Plain (segment : Segment) : Prop where
  nonempty : segment.value ≠ ""
  slash : '/' ∉ segment.value.toList
  braces : ∀ c ∈ segment.value.toList, isBrace c = false

theorem variableName?_eq_some_iff {name : List Char} : variableName? piece = some name ↔
    piece = '\x7b' :: name ++ ['\x7d'] ∧ name ≠ [] ∧ ∀ c ∈ name, isBrace c = false := by
  constructor
  · intro h
    unfold variableName? at h
    split at h
    next rest =>
      split at h
      next inner hinner =>
        split_ifs at h with hname
        cases h
        simp only [Bool.or_eq_true, List.isEmpty_iff, List.any_eq_true, not_or, not_exists,
          not_and, Bool.not_eq_true] at hname
        refine ⟨?_, by simpa using hname.1, fun c hc => hname.2 c (List.mem_reverse.mp hc)⟩
        rw [← List.reverse_reverse rest, hinner, List.reverse_cons, List.cons_append]
      · cases h
    · cases h
  · rintro ⟨rfl, hne, hfree⟩
    have hbraces : name.reverse.any isBrace = false := by
      simpa [List.any_eq_false] using hfree
    simp [variableName?, hbraces, hne]

theorem ofChars?_eq_some_iff : ofChars? piece = some segment ↔ Writes piece segment := by
  have hbraces : piece.any isBrace = false ↔ ∀ c ∈ piece, isBrace c = false := by simp
  unfold ofChars?
  constructor
  · intro h
    split at h
    · obtain ⟨name, hname, rfl⟩ := Option.map_eq_some_iff.mp h
      obtain ⟨rfl, hne, hfree⟩ := variableName?_eq_some_iff.mp hname
      exact .placeholder hne hfree
    next hfree =>
      cases h
      exact .literal (hbraces.mp (by simpa using hfree))
  · rintro (hfree | ⟨hne, hfree⟩)
    · rw [hbraces.mpr hfree]
      rfl
    · rw [if_pos (by simp [isBrace]), variableName?_eq_some_iff.mpr ⟨rfl, hne, hfree⟩]
      rfl

theorem Writes.render_eq (h : Writes piece segment) : segment.render.toList = piece := by
  cases h <;> simp [render]

theorem Writes.plain (h : Writes piece segment) (nonempty : piece ≠ []) (slash : '/' ∉ piece) :
    segment.Plain := by
  cases h with
  | literal free => exact ⟨by simpa [value] using nonempty, by simpa [value], by simpa [value]⟩
  | placeholder hne free =>
    exact ⟨by simpa [value] using hne, by simp_all [value], by simpa [value]⟩

theorem Plain.writes (h : segment.Plain) : Writes segment.render.toList segment := by
  cases segment with
  | literal text => simpa [render, value] using Writes.literal h.braces
  | placeholder name =>
    have hname : name.toList ≠ [] := by simpa [value] using h.nonempty
    simpa [render] using Writes.placeholder hname h.braces

theorem Plain.render_ne_nil (h : segment.Plain) : segment.render.toList ≠ [] := by
  cases segment with
  | literal text => simpa [render, value] using h.nonempty
  | placeholder name => simp [render]

theorem Plain.slash_not_mem_render (h : segment.Plain) : '/' ∉ segment.render.toList := by
  have hslash := h.slash
  cases segment <;> simp_all [render, value]

end Segment

namespace PathTemplate

variable {path : String} {template : PathTemplate}

theorem parse_eq_ok_iff :
    parse path = .ok template ↔ List.Forall₂ Segment.Writes (pieces path) template := by
  rw [parse, mapM_eq_ok]
  constructor <;> refine List.Forall₂.imp fun piece segment h => ?_
  · split at h
    next found hfound =>
      cases h
      exact Segment.ofChars?_eq_some_iff.mp hfound
    · cases h
  · rw [Segment.ofChars?_eq_some_iff.mpr h]

theorem exists_parse_iff : (∃ template, parse path = .ok template) ↔
    ∀ piece ∈ pieces path, ∃ segment, Segment.Writes piece segment := by
  rw [parse, exists_mapM_iff]
  refine forall₂_congr fun piece _ => exists_congr fun segment => ?_
  rw [← Segment.ofChars?_eq_some_iff]
  cases Segment.ofChars? piece <;> simp

theorem toList_render (template : PathTemplate) : template.render.toList =
    '/' :: ['/'].intercalate (template.map (·.render.toList)) := by
  simp [render, String.toList_intercalate, Function.comp_def]

theorem mem_pieces_iff {piece : List Char} :
    piece ∈ pieces path ↔ piece ∈ path.toList.splitOn '/' ∧ piece ≠ [] := by
  simp [pieces]

theorem pieces_eq_of_slash {rest : List Char} (h : path.toList = '/' :: rest) :
    pieces path = (rest.splitOn '/').filter fun piece => !piece.isEmpty := by
  rw [pieces, h, List.splitOn_cons_eq_if_modifyHead, if_pos (beq_self_eq_true '/'),
    List.filter_cons_of_neg (by simp)]

theorem filter_eq_self_of_nil_not_mem {pieces : List (List Char)} (h : [] ∉ pieces) :
    (pieces.filter fun piece => !piece.isEmpty) = pieces := by
  rw [List.filter_eq_self]
  intro piece hpiece
  have hne : piece ≠ [] := fun hempty => h (hempty ▸ hpiece)
  simpa using hne

theorem plain_of_parse (h : parse path = .ok template) : ∀ segment ∈ template, segment.Plain := by
  intro segment hsegment
  obtain ⟨piece, hpiece, hwrites⟩ := exists_left_of_mem (parse_eq_ok_iff.mp h) hsegment
  obtain ⟨hsplit, hne⟩ := mem_pieces_iff.mp hpiece
  exact hwrites.plain hne (Text.not_mem_of_mem_splitOn hsplit)

theorem map_render_of_parse (h : parse path = .ok template) :
    template.map (·.render.toList) = pieces path := by
  rw [← List.forall₂_eq_eq_eq, List.forall₂_map_left_iff]
  exact (parse_eq_ok_iff.mp h).flip.imp fun _ _ hwrites => hwrites.render_eq

section Plain

variable (plain : ∀ segment ∈ template, segment.Plain)
include plain

theorem splitOn_of_plain (hne : template ≠ []) :
    (['/'].intercalate (template.map (·.render.toList))).splitOn '/' =
      template.map (·.render.toList) := by
  refine Text.splitOn_eq_iff.mpr ⟨by simpa using hne, ?_, rfl⟩
  intro piece hpiece
  obtain ⟨segment, hsegment, rfl⟩ := List.mem_map.mp hpiece
  exact (plain segment hsegment).slash_not_mem_render

theorem nil_not_mem_of_plain : [] ∉ template.map (·.render.toList) := by
  intro hnil
  obtain ⟨segment, hsegment, hempty⟩ := List.mem_map.mp hnil
  exact (plain segment hsegment).render_ne_nil hempty

theorem pieces_render : pieces template.render = template.map (·.render.toList) := by
  rw [pieces_eq_of_slash (toList_render template)]
  by_cases hne : template = []
  · subst hne
    rfl
  · rw [splitOn_of_plain plain hne, filter_eq_self_of_nil_not_mem (nil_not_mem_of_plain plain)]

/-- A template of plain segments is read back from the path it is written as. -/
theorem parse_render_of_plain : parse template.render = .ok template := by
  rw [parse_eq_ok_iff, pieces_render plain, List.forall₂_map_left_iff]
  exact List.forall₂_same.mpr fun segment hsegment => (plain segment hsegment).writes

end Plain

/-- A path with one slash before each of its pieces and none elsewhere, or one slash alone. -/
def IsTight (path : String) : Prop :=
  path = "/" ∨ (path.toList.head? = some '/' ∧ path.toList.getLast? ≠ some '/' ∧
    ¬ ['/', '/'] <:+: path.toList)

theorem isTight_iff : IsTight path ↔
    path = "/" ∨ ∃ rest, path.toList = '/' :: rest ∧ [] ∉ rest.splitOn '/' := by
  refine or_congr_right ?_
  cases path.toList with
  | nil => simp
  | cons c rest =>
    by_cases hslash : c = '/'
    · subst hslash
      simp only [Text.nil_mem_splitOn_iff, Text.pair_infix_concat_iff, not_or]
      simp
    · simp [hslash]

theorem render_eq_iff (h : parse path = .ok template) :
    template.render = path ↔ IsTight path := by
  rw [isTight_iff]
  constructor
  · rintro rfl
    by_cases hne : template = []
    · subst hne
      exact .inl rfl
    · have plain := plain_of_parse h
      refine .inr ⟨_, toList_render template, ?_⟩
      rw [splitOn_of_plain plain hne]
      exact nil_not_mem_of_plain plain
  · have hrender := toList_render template
    rw [map_render_of_parse h] at hrender
    rintro (rfl | ⟨rest, hrest, hpieces⟩)
    · exact String.toList_injective hrender
    · have hall : pieces path = rest.splitOn '/' := by
        rw [pieces_eq_of_slash hrest, filter_eq_self_of_nil_not_mem hpieces]
      rw [hall, List.intercalate_splitOn, ← hrest] at hrender
      exact String.toList_injective hrender

/-- What paths are read, and how reading and writing undo each other: a path is read exactly when
each of its pieces writes a segment; the template of a path is read back from what it is written as,
which is the path itself exactly when that is tight; and so is every template of plain segments. -/
theorem parse_inverts_render :
    (∀ path, (∃ template, parse path = .ok template) ↔
      ∀ piece ∈ path.toList.splitOn '/', piece ≠ [] → ∃ segment, Segment.Writes piece segment) ∧
    (∀ path template, parse path = .ok template →
      parse template.render = .ok template ∧ (template.render = path ↔ IsTight path)) ∧
    ∀ template : PathTemplate, (∀ segment ∈ template, segment.Plain) →
      parse template.render = .ok template := by
  refine ⟨fun path => ?_, fun path template h => ?_, fun template plain => ?_⟩
  · simp only [exists_parse_iff, mem_pieces_iff, and_imp]
  · exact ⟨parse_render_of_plain (plain_of_parse h), render_eq_iff h⟩
  · exact parse_render_of_plain plain

theorem parse_inverts_render_doubled :
    parse "//allocation///\x7btenant\x7d/" = .ok [.literal "allocation", .placeholder "tenant"] ∧
    parse (render [.literal "allocation", .placeholder "tenant"]) =
      .ok [.literal "allocation", .placeholder "tenant"] ∧
    (render [.literal "allocation", .placeholder "tenant"] = "//allocation///\x7btenant\x7d/" ↔
      IsTight "//allocation///\x7btenant\x7d/") := by
  have hparse : parse "//allocation///\x7btenant\x7d/" =
      .ok [.literal "allocation", .placeholder "tenant"] := by decide +kernel
  exact ⟨hparse, parse_inverts_render.2.1 _ _ hparse⟩

end PathTemplate

end ClientGen
