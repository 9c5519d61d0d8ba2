import ClientGen.Proofs.Schema.Reordering
import ClientGen.Proofs.TypeExpression

/-!
Schemas whose innermost schema is a reference. The types that they stand for keep the reference in
their innermost place, so the text of such a type is refused as a type expression when the reference
leads to no schema of the document.
-/
namespace ClientGen

open Outcome

/-- The schemas that lead to a reference: those that are one, and those of arrays and maps whose
items or values lead to it. A schema that leads back to itself leads to none. -/
inductive LeadsTo : Document → String → Prop
  | reference {members : Members} {reference : String}
      (found : Members.get? members "$ref" = some (.text reference)) :
      LeadsTo (.object members) reference
  | items {members : Members} {item : Document} {reference : String}
      (none : Members.get? members "$ref" = none)
      (kind : Members.get? members "type" = some (.text "array"))
      (found : Members.get? members "items" = some item) (inner : LeadsTo item reference) :
      LeadsTo (.object members) reference
  | values {members : Members} {value : Document} {reference : String}
      (none : Members.get? members "$ref" = none)
      (kind : Members.get? members "type" = some (.text "object"))
      (found : Members.get? members "additionalProperties" = some value)
      (inner : LeadsTo value reference) : LeadsTo (.object members) reference
  | knot {mark : Nat} {members : Members} {reference : String}
      (inner : LeadsTo (.object members) reference) :
      LeadsTo (.knot mark (.object members)) reference

namespace LeadsTo

variable {schema : Document} {reference : String}

theorem refill (h : LeadsTo schema reference) (mark : Nat) (whole : Document) :
    LeadsTo (.refill mark whole schema) reference := by
  induction h with
  | reference found =>
    refine .reference ?_
    rw [Document.get?_refillMembers, found]
    rfl
  | items none kind found _ ih =>
    refine .items ?_ ?_ ?_ ih
    · rw [Document.get?_refillMembers, none]
      rfl
    · rw [Document.get?_refillMembers, kind]
      rfl
    · rw [Document.get?_refillMembers, found]
      rfl
  | values none kind found _ ih =>
    refine .values ?_ ?_ ?_ ih
    · rw [Document.get?_refillMembers, none]
      rfl
    · rw [Document.get?_refillMembers, kind]
      rfl
    · rw [Document.get?_refillMembers, found]
      rfl
  | @knot inner members reference content ih =>
    -- A knot of the same mark ties its own content, and stays as it is.
    unfold Document.refill
    split
    · exact .knot content
    · exact .knot ih

theorem untie (h : LeadsTo schema reference) : ∃ members, schema.untie = .object members ∧
    LeadsTo (.object members) reference := by
  cases h with
  | reference found => exact ⟨_, rfl, .reference found⟩
  | items none kind found inner => exact ⟨_, rfl, .items none kind found inner⟩
  | values none kind found inner => exact ⟨_, rfl, .values none kind found inner⟩
  | knot inner => exact ⟨_, rfl, inner.refill _ _⟩

theorem get?_cases (h : LeadsTo schema reference) :
    schema.get? "$ref" = some (.text reference) ∨
      schema.get? "$ref" = none ∧ ∃ inner, LeadsTo inner reference ∧
        (schema.get? "type" = some (.text "array") ∧ schema.get? "items" = some inner ∨
          schema.get? "type" = some (.text "object") ∧
            schema.get? "additionalProperties" = some inner) := by
  obtain ⟨members, hmembers, h⟩ := h.untie
  unfold Document.get?
  rw [hmembers]
  cases h with
  | reference found => exact .inl found
  | items none kind found inner => exact .inr ⟨none, _, inner, .inl ⟨kind, found⟩⟩
  | values none kind found inner => exact .inr ⟨none, _, inner, .inr ⟨kind, found⟩⟩

end LeadsTo

/-- The objects at the innermost place of schemas: of an object itself, and of arrays and maps
whose items or values have it there. -/
inductive Encloses : Document → Members → Prop
  | self {members : Members} : Encloses (.object members) members
  | items {members leaf : Members} {item : Document}
      (none : Members.get? members "$ref" = none)
      (kind : Members.get? members "type" = some (.text "array"))
      (found : Members.get? members "items" = some item) (inner : Encloses item leaf) :
      Encloses (.object members) leaf
  | values {members leaf : Members} {value : Document}
      (none : Members.get? members "$ref" = none)
      (kind : Members.get? members "type" = some (.text "object"))
      (found : Members.get? members "additionalProperties" = some value)
      (inner : Encloses value leaf) : Encloses (.object members) leaf
  | knot {mark : Nat} {members leaf : Members} (inner : Encloses (.object members) leaf) :
      Encloses (.knot mark (.object members)) leaf

theorem LeadsTo.encloses {schema : Document} {reference : String} (h : LeadsTo schema reference) :
    ∃ leaf, Encloses schema leaf ∧ Members.get? leaf "$ref" = some (.text reference) := by
  induction h with
  | reference found => exact ⟨_, .self, found⟩
  | items none kind found _ ih =>
    obtain ⟨leaf, hleaf, href⟩ := ih
    exact ⟨leaf, .items none kind found hleaf, href⟩
  | values none kind found _ ih =>
    obtain ⟨leaf, hleaf, href⟩ := ih
    exact ⟨leaf, .values none kind found hleaf, href⟩
  | knot _ ih =>
    obtain ⟨leaf, hleaf, href⟩ := ih
    exact ⟨leaf, .knot hleaf, href⟩

theorem nonEmpty_of_ne {name : String} (h : name ≠ "") (otherwise : String) :
    nonEmpty (some name) otherwise = name := by
  simp [nonEmpty, h]

namespace TypeShape

variable {schema : Document} {leaf : Members} {reference : String} {shape : TypeShape}

/-- The innermost place of the type of a schema is that of the type of its innermost object. -/
theorem innermost_of_encloses (h : Encloses schema leaf) {around : List (Nat × Document)}
    (hshape : ofSchemaWithin around schema = .ok shape) : ∃ outer inner,
      ofSchemaWithin outer (.object leaf) = .ok inner ∧ shape.innermost = inner.innermost := by
  induction h generalizing around shape with
  | self => exact ⟨around, shape, hshape, rfl⟩
  | items none kind found _ ih =>
    simp only [ofSchemaWithin, none, kind, ofItems_eq, found, Option.map_some] at hshape
    obtain ⟨item, hitem, rfl⟩ := map_eq_ok.mp hshape
    simpa only [innermost] using ih hitem
  | values none kind found _ ih =>
    simp only [ofSchemaWithin, none, kind, ofValues_eq, found, Option.bind_some] at hshape
    split at hshape
    next value hvalue =>
      split at hvalue
      · cases hvalue
        obtain ⟨value, hvalue, rfl⟩ := map_eq_ok.mp hshape
        simpa only [innermost] using ih hvalue
      · cases hvalue
    · cases hshape
  | knot inner ih => exact ih hshape

/-- The innermost place of the type of a schema is what the reference stands for that the schema
leads to. -/
theorem innermost_of_ofSchemaWithin (h : LeadsTo schema reference)
    {around : List (Nat × Document)} (hshape : ofSchemaWithin around schema = .ok shape) :
    shape.innermost = (ofReference reference).innermost := by
  obtain ⟨leaf, hleaf, href⟩ := h.encloses
  obtain ⟨outer, inner, hinner, hinnermost⟩ := innermost_of_encloses hleaf hshape
  simp only [ofSchemaWithin, href] at hinner
  cases hinner
  exact hinnermost

/-- A reference that leads to no schema of the document is kept. -/
theorem ofReference_foreign (foreign : Text.startsWith reference Reference.schemaPlace = false) :
    ofReference reference = elsewhere reference := by
  unfold Text.startsWith at foreign
  simp [ofReference, Text.dropStart?, foreign]

/-- The type of a schema that leads to such a reference has it in its innermost place. -/
theorem innermost_of_foreign (leads : LeadsTo schema reference)
    (foreign : Text.startsWith reference Reference.schemaPlace = false)
    (h : ofSchema schema = .ok shape) : shape.innermost = elsewhere reference := by
  rw [innermost_of_ofSchemaWithin leads h, ofReference_foreign foreign]
  rfl

/-- The text of a type has its innermost type behind brackets and names, which hide nothing. -/
theorem render_eq_innermost (shape : TypeShape) : ∃ before after,
    (∀ c ∈ before.toList, c ∉ TypeExpression.hidingChars) ∧
      shape.render = before ++ (shape.innermost.render ++ after) := by
  induction shape with
  | list item ih =>
    obtain ⟨before, after, hplain, hrender⟩ := ih
    refine ⟨"list[" ++ before, after ++ "]", ?_, ?_⟩
    · rw [String.toList_append, List.forall_mem_append]
      exact ⟨by simp [TypeExpression.hidingChars], hplain⟩
    · rw [render, hrender]
      simp only [innermost, String.append_assoc]
  | map value ih =>
    obtain ⟨before, after, hplain, hrender⟩ := ih
    refine ⟨"dict[str, " ++ before, after ++ "]", ?_, ?_⟩
    · rw [String.toList_append, List.forall_mem_append]
      exact ⟨by simp [TypeExpression.hidingChars], hplain⟩
    · rw [render, hrender]
      simp only [innermost, String.append_assoc]
  | _ => exact ⟨"", "", by simp, by simp [innermost]⟩

/-- The text of a type with a foreign reference inside has the dollar of the reference. -/
theorem render_eq_dollar (h : shape.innermost = elsewhere reference) : ∃ before after,
    (∀ c ∈ before.toList, c ∉ TypeExpression.hidingChars) ∧
      shape.render = before ++ (String.singleton '$' ++ after) := by
  obtain ⟨before, after, hplain, hrender⟩ := render_eq_innermost shape
  refine ⟨before, "ref: " ++ (reference ++ after), hplain, ?_⟩
  have hstart : "$ref: " = String.singleton '$' ++ "ref: " := by decide
  rw [hrender, h, render, hstart]
  simp only [String.append_assoc]

/-- Such a text is no type expression, whatever the reference holds. -/
theorem parse?_of_innermost (h : shape.innermost = elsewhere reference) :
    TypeExpression.parse? shape.render = none := by
  obtain ⟨before, after, hplain, hrender⟩ := render_eq_dollar h
  rw [hrender]
  exact TypeExpression.parse?_foreign hplain TypeExpression.Scan.isForeign_dollar after

theorem nonEmpty_render (h : shape.innermost = elsewhere reference) (otherwise : String) :
    nonEmpty (some shape.render) otherwise = shape.render := by
  obtain ⟨before, after, -, hrender⟩ := render_eq_dollar h
  refine nonEmpty_of_ne ?_ otherwise
  rw [hrender]
  simp

end TypeShape

variable {schema : Document} {reference : String}

/-- A parameter whose schema leads to a foreign reference has a type to be imported that is no type
expression. -/
theorem Parameter.parse?_of_leadsTo {id name : String} {type : ParameterType}
    (h : schemaType schema id name = .ok type) (leads : LeadsTo schema reference)
    (foreign : Text.startsWith reference Reference.schemaPlace = false) :
    type.kind ≠ .plain ∧ TypeExpression.parse? type.expression = none := by
  unfold schemaType at h
  obtain href | ⟨hnone, inner, -, ⟨hkind, -⟩ | ⟨hkind, -⟩⟩ := leads.get?_cases
  · simp only [href, TypeShape.ofReference_foreign foreign] at h
    cases h
    refine ⟨by simp, ?_⟩
    have hself : (TypeShape.elsewhere reference).innermost = .elsewhere reference := rfl
    rw [ParameterType.expression, TypeShape.nonEmpty_render hself]
    exact TypeShape.parse?_of_innermost hself
  · simp [hnone, Document.get, hkind] at h
  · simp [hnone, Document.get, hkind] at h

def Content.jsonSchema? (body : Document) : Option Document :=
  ((body.get "content").get? jsonType).bind fun media => media.get? "schema"

theorem Document.members_of_get? {document value : Document} {name : String}
    (h : document.get? name = some value) : document.isVoid = false ∧ document.isObject = true ∧
      document.mentions? name = some true := by
  unfold get? at h
  split at h
  next members hmembers =>
    refine ⟨?_, by simp [isObject, hmembers], by simp [mentions?, hmembers, Members.has, h]⟩
    cases document with
    | object =>
      cases hmembers
      cases members with
      | nil => cases h
      | cons => rfl
    | knot => rfl
    | _ => cases hmembers
  · cases h

theorem Content.of_eq_json {body : Document} (h : jsonSchema? body = some schema) :
    Content.of body = .ok (.json (some schema)) := by
  obtain ⟨media, hmedia, hschema⟩ := Option.bind_eq_some_iff.mp h
  obtain ⟨hmediaVoid, -, hmentionsSchema⟩ := Document.members_of_get? hschema
  obtain ⟨hcontentVoid, -, hmentionsMedia⟩ := Document.members_of_get? hmedia
  have hbody : body.isObject = true := by
    cases hcontent : body.get? "content" with
    | some content => exact (Document.members_of_get? hcontent).2.1
    | none =>
      rw [Document.get, hcontent] at hmedia
      cases hmedia
  simp [Content.of, mediaSchema, hbody, hcontentVoid, hmentionsMedia, hmedia, hmediaVoid,
    hmentionsSchema, hschema]

theorem BodyType.read_of_json {body : Document} (h : Content.jsonSchema? body = some schema) :
    read body = TypeShape.ofSchema schema >>= fun shape => .ok ⟨.schema, some shape.render⟩ := by
  rw [read, Content.of_eq_json h]
  rfl

theorem ResponseType.read_of_json {response : Document}
    (h : Content.jsonSchema? response = some schema) (idCollection : String) :
    read response idCollection = ofSchema schema idCollection := by
  rw [read, Content.of_eq_json h]
  rfl

/-- So has a request body whose JSON schema leads to one. -/
theorem BodyType.parse?_of_leadsTo {body : Document} {type : BodyType} (h : read body = .ok type)
    (json : Content.jsonSchema? body = some schema) (leads : LeadsTo schema reference)
    (foreign : Text.startsWith reference Reference.schemaPlace = false) :
    type.kind = .schema ∧ TypeExpression.parse? type.expression = none := by
  obtain ⟨shape, hshape, h⟩ := bind_eq_ok.mp ((read_of_json json).symm.trans h)
  cases h
  have hinnermost := TypeShape.innermost_of_foreign leads foreign hshape
  refine ⟨rfl, ?_⟩
  rw [expression, TypeShape.nonEmpty_render hinnermost]
  exact TypeShape.parse?_of_innermost hinnermost

/-- And so has a response, unless the reference is the name of the schema of id collections. -/
theorem ResponseType.parse?_of_leadsTo {response : Document} {idCollection : String}
    {type : ResponseType} (h : read response idCollection = .ok type)
    (json : Content.jsonSchema? response = some schema) (leads : LeadsTo schema reference)
    (foreign : Text.startsWith reference Reference.schemaPlace = false)
    (plain : '$' ∉ idCollection.toList) :
    type.kind ≠ .nothing ∧ TypeExpression.parse? type.expression = none := by
  rw [read_of_json json, ofSchema] at h
  obtain href | ⟨hnone, inner, hinner, ⟨hkind, hitems⟩ | ⟨hkind, hvalues⟩⟩ := leads.get?_cases
  · have hother : (TypeShape.elsewhere reference).render ≠ idCollection := by
      rintro rfl
      exact plain (by simp [TypeShape.render])
    simp only [href, TypeShape.ofReference_foreign foreign, beq_iff_eq, hother, if_false] at h
    cases h
    refine ⟨by simp, ?_⟩
    have hself : (TypeShape.elsewhere reference).innermost = .elsewhere reference := rfl
    rw [expression, TypeShape.nonEmpty_render hself]
    exact TypeShape.parse?_of_innermost hself
  · simp only [hnone, hkind, hitems] at h
    obtain ⟨shape, hshape, rfl⟩ := map_eq_ok.mp h
    have hinnermost := TypeShape.innermost_of_foreign hinner foreign hshape
    have hrefused : TypeExpression.parse? (TypeShape.list shape).render = none :=
      TypeShape.parse?_of_innermost hinnermost
    exact ⟨by simp, hrefused⟩
  · simp only [hnone, hkind, hvalues] at h
    split at h
    · obtain ⟨shape, hshape, rfl⟩ := map_eq_ok.mp h
      have hinnermost := TypeShape.innermost_of_foreign hinner foreign hshape
      have hrefused : TypeExpression.parse? (TypeShape.map shape).render = none :=
        TypeShape.parse?_of_innermost hinnermost
      exact ⟨by simp, hrefused⟩
    · cases h

end ClientGen
