import ClientGen.Operation.Identifier
import ClientGen.Proofs.Outcome
import ClientGen.Proofs.Text.Pieces

/-!
What an operation id tells: the method, and of the path its literals and its variables, but not how
they alternate.
-/
namespace ClientGen

theorem Kind.name_of_ofName? {literal : String} {kind : Kind}
    (h : Kind.ofName? literal = some kind) : kind.name = literal := by
  simpa using List.find?_some h

namespace Operation

open Outcome

/-- The literal of the first place as a part of ids, where the plain kind is left out. -/
def kindParts (template : PathTemplate) : List String :=
  match template.firstLiteral? with
  | some literal => if literal = Kind.allocation.name then [] else [literal]
  | none => []

def idTail (template : PathTemplate) : String :=
  String.join
    ((kindParts template ++ (PathTemplate.literals template.tail).map idPart).map ("_" ++ ·) ++
      (idVariables template).map fun name => "_by_" ++ idPart name)

theorem intercalate_cons_eq_join (separator first : String) (rest : List String) :
    separator.intercalate (first :: rest) =
      first ++ String.join (rest.map (separator ++ ·)) := by
  induction rest generalizing first with
  | nil => simp
  | cons second rest ih =>
    rw [String.intercalate_cons_of_ne_nil (by simp), ih second]
    simp [String.append_assoc]

theorem kindParts_of_kind {template : PathTemplate} {path : String} {kind : Kind}
    (h : template.kind path = .ok kind) :
    kindParts template = if kind = .allocation then [] else [kind.name] := by
  unfold PathTemplate.kind at h
  unfold kindParts
  split at h
  · cases h
  next literal hliteral =>
    split at h
    next found hfound =>
      cases h
      have hname := Kind.name_of_ofName? hfound
      simp only [hliteral, ← hname]
      cases kind <;> decide
    · cases h

theorem synthesizeId_eq_ok {method id : String} {template : PathTemplate} :
    synthesizeId method template = .ok id ↔
      (∃ kind, template.kind template.render = .ok kind) ∧
        id = Text.lower method ++ idTail template ∧ Text.isIdentifier id = true := by
  have htext : ∀ kind, template.kind template.render = .ok kind →
      "_".intercalate ([Text.lower method] ++ (if kind = .allocation then [] else [kind.name]) ++
          (PathTemplate.literals template.tail).map idPart) ++
        String.join ((idVariables template).map fun name => "_by_" ++ idPart name) =
      Text.lower method ++ idTail template := by
    intro kind hkind
    rw [List.append_assoc, List.singleton_append, intercalate_cons_eq_join,
      ← kindParts_of_kind hkind, idTail, String.join_append, String.append_assoc]
  simp only [synthesizeId, bind_eq_ok]
  constructor
  · rintro ⟨kind, hkind, h⟩
    rw [htext kind hkind] at h
    split at h
    next hid =>
      cases h
      exact ⟨⟨kind, hkind⟩, rfl, hid⟩
    · cases h
  · rintro ⟨⟨kind, hkind⟩, rfl, hid⟩
    refine ⟨kind, hkind, ?_⟩
    rw [htext kind hkind, if_pos hid]
    rfl

theorem idTail_head (template : PathTemplate) :
    ∀ c ∈ (idTail template).toList.head?, c = '_' := by
  have hjoin : ∀ parts : List String, (∀ part ∈ parts, ∃ rest, part = "_" ++ rest) →
      ∀ c ∈ (String.join parts).toList.head?, c = '_' := by
    intro parts hparts
    cases parts with
    | nil => simp
    | cons part rest =>
      obtain ⟨rest', rfl⟩ := hparts part (by simp)
      simp
  apply hjoin
  intro part hpart
  rcases List.mem_append.mp hpart with hpart | hpart
  · obtain ⟨text, -, rfl⟩ := List.mem_map.mp hpart
    exact ⟨text, rfl⟩
  · obtain ⟨name, -, rfl⟩ := List.mem_map.mp hpart
    have hby : "_by_" = "_" ++ "by_" := by decide
    exact ⟨"by_" ++ idPart name, by rw [hby, String.append_assoc]⟩

theorem ne_underscore_of_mem_name (method : Method) :
    ∀ c ∈ method.name.toList, (c != '_') = true := by
  rw [← List.all_eq_true]
  cases method <;> rfl

theorem lower_name (method : Method) : Text.lower method.name = method.name := by
  cases method <;> decide +kernel

/-- Two ids are the same exactly when both the methods and the tails are. -/
theorem synthesizeId_inj {a b : Method} {s t : PathTemplate} {i j : String}
    (hi : synthesizeId a.name s = .ok i) (hj : synthesizeId b.name t = .ok j) :
    i = j ↔ a = b ∧ idTail s = idTail t := by
  obtain ⟨-, rfl, -⟩ := synthesizeId_eq_ok.mp hi
  obtain ⟨-, rfl, -⟩ := synthesizeId_eq_ok.mp hj
  rw [lower_name, lower_name]
  constructor
  · intro h
    have hlist := congrArg String.toList h
    simp only [String.toList_append] at hlist
    obtain ⟨hname, htail⟩ := Text.append_inj_of_stop (ne_underscore_of_mem_name a)
      (ne_underscore_of_mem_name b) (by simpa using idTail_head s) (by simpa using idTail_head t)
      hlist
    exact ⟨Method.name_injective (String.toList_injective hname), String.toList_injective htail⟩
  · rintro ⟨rfl, htail⟩
    rw [htail]

end Operation

end ClientGen
