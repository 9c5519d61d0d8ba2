import ClientGen.Proofs.Schema.Innermost

/-!
Requests and responses of one schema. A response tells of its type what kind of container it is and
what stands in it, a request only the whole text; both are made from the schema for themselves, and
come to the same type expression.
-/
namespace ClientGen

open Outcome

/-- The kind of response that a schema gives by its outermost part: a reference counts before all
else, then an array and an object, and what is left is a text. -/
def ResponseKind.ofSchema (schema : Document) : ResponseKind :=
  match schema.get? "$ref", schema.get? "type" with
  | some _, _ => .scalar
  | none, some (.text "array") => .collection
  | none, some (.text "object") => .map
  | none, _ => .plain

namespace TypeShape

variable {reference : String} {shape : TypeShape}

def response : TypeShape → ResponseType
  | text => ⟨.plain, none, none⟩
  | list item => ⟨.collection, some item.render, none⟩
  | map value => ⟨.map, some value.render, none⟩
  | shape => ⟨.scalar, some shape.render, none⟩

theorem expression_response (h : shape.render ≠ "") : shape.response.expression = shape.render := by
  cases shape with
  | text => rfl
  | list item => rfl
  | map value => rfl
  | named name => exact nonEmpty_of_ne h "Any"
  | elsewhere reference => exact nonEmpty_of_ne h "Any"

theorem response_ofReference (reference : String) :
    (ofReference reference).response = ⟨.scalar, some (ofReference reference).render, none⟩ := by
  unfold ofReference
  split <;> rfl

/-- Only the place of the schemas, without the name of one, is a reference that is written as
nothing. -/
theorem render_ofReference_ne (h : reference ≠ Reference.schemaPlace) :
    (ofReference reference).render ≠ "" := by
  intro hempty
  unfold ofReference at hempty
  split at hempty
  next name hname =>
    change name = "" at hempty
    subst hempty
    simp only [Text.dropStart?, Option.ite_none_right_eq_some, Option.some.injEq,
      List.isPrefixOf_iff_prefix] at hname
    obtain ⟨⟨rest, hrest⟩, hdrop⟩ := hname
    rw [← hrest, ← String.length_toList, List.drop_left] at hdrop
    have hnil : rest = [] := by simpa using hdrop
    rw [hnil, List.append_nil] at hrest
    exact h (String.toList_inj.mp hrest.symm)
  · simp [render] at hempty

/-- A schema has a type as a response where it has one as a request, unless it is the reference of
id collections. -/
theorem agree_response {schema : Document} {idCollection : String} (json : schema.plain = true)
    (named : schema.get? "$ref" ≠ some (.text Reference.schemaPlace))
    (other : ∀ reference, schema.get? "$ref" = some (.text reference) →
      (ofReference reference).render ≠ idCollection) :
    Agree (fun type shape => type = shape.response ∧ shape.render ≠ "")
      (ResponseType.ofSchema schema idCollection) (ofSchema schema) := by
  cases schema with
  | object members =>
    rw [ofSchema, ofSchemaWithin_object, ofItems_eq, ofValues_eq]
    simp only [Document.get?_object] at named other
    unfold ResponseType.ofSchema ofParts
    simp only [Document.get?_object]
    generalize Members.get? members "$ref" = reference at *
    generalize Members.get? members "type" = kind
    generalize Members.get? members "items" = items
    generalize Members.get? members "additionalProperties" = values
    cases reference with
    | some reference =>
      cases reference with
      | scalar value =>
        cases value with
        | text reference =>
          have hne : reference ≠ Reference.schemaPlace := fun h => named (by rw [h])
          simp only [beq_iff_eq, other reference rfl, if_false]
          exact .ok ⟨(response_ofReference reference).symm, render_ofReference_ne hne⟩
        | _ => exact .error _ _
      | _ => exact .error _ _
    | none =>
      dsimp only
      split
      next => exact .ok ⟨rfl, by simp [render]⟩
      next item =>
        exact (Agree.same (x := ofSchema item)).map fun _ shape hshape => by
          rw [hshape]
          exact ⟨rfl, by simp [render]⟩
      next =>
        cases values with
        | none => exact .error _ _
        | some value =>
          have hclosed : Document.closed [] value = value := rfl
          simp only [Option.bind_some, hclosed]
          cases value.isObject with
          | true =>
            exact (Agree.same (x := ofSchema value)).map fun _ shape hshape => by
              rw [hshape]
              exact ⟨rfl, by simp [render]⟩
          | false => exact .error _ _
      next hstring hobject harray =>
        -- an array without items is refused for another reason, and nothing else is left
        split
        next => exact (hstring rfl).elim
        next =>
          cases items with
          | none => exact .error _ _
          | some item => exact (harray item rfl rfl).elim
        next => exact (hobject rfl).elim
        next => exact .error _ _
  | scalar value => exact .error _ _
  | array items => exact .error _ _
  | _ => simp [Document.plain] at json

end TypeShape

namespace ResponseType

/-- The kind of a response tells the outermost part of its schema, unless it is one of ids. -/
theorem kind_of_ofSchema {schema : Document} {idCollection : String} {type : ResponseType}
    (h : ofSchema schema idCollection = .ok type) (hids : type.kind ≠ .ids) :
    type.kind = .ofSchema schema := by
  unfold ofSchema at h
  unfold ResponseKind.ofSchema
  split at h
  next reference href =>
    rw [href]
    dsimp only at h
    split at h
    · cases h
      exact absurd rfl hids
    · cases h
      rfl
  · cases h
  next href =>
    rw [href]
    split at h
    next htype =>
      cases h
      simp only [htype]
      rfl
    next htype _ =>
      obtain ⟨shape, -, rfl⟩ := map_eq_ok.mp h
      simp only [htype]
    next htype =>
      simp only [htype]
      split at h
      · split at h
        · obtain ⟨shape, -, rfl⟩ := map_eq_ok.mp h
          rfl
        · cases h
      · cases h
    · cases h

/-- The JSON of a response and of a request of the same schema, which is not the reference of id
collections, has a type for both or for none. The types are the same expression, and that of the
response is of the kind that the schema has by its outermost part. -/
theorem alike_of_schema {response body schema : Document} {idCollection : String}
    (ofResponse : Content.jsonSchema? response = some schema)
    (ofBody : Content.jsonSchema? body = some schema) (json : schema.plain = true)
    (named : schema.get? "$ref" ≠ some (.text Reference.schemaPlace))
    (other : ∀ reference, schema.get? "$ref" = some (.text reference) →
      (TypeShape.ofReference reference).render ≠ idCollection) :
    Agree (fun type bodyType => type.expression = bodyType.expression ∧
      type.kind = .ofSchema schema) (read response idCollection) (BodyType.read body) := by
  rw [read_of_json ofResponse, BodyType.read_of_json ofBody,
    ← bind_pure (ofSchema schema idCollection)]
  refine (TypeShape.agree_response json named other).with_eq.bind ?_
  rintro type shape ⟨htype, rfl, hshape⟩
  refine .ok ⟨?_, kind_of_ofSchema htype ?_⟩
  · rw [TypeShape.expression_response hshape]
    exact (nonEmpty_of_ne hshape "str").symm
  · cases shape <;> simp [TypeShape.response]

/-- A body of JSON, or text for a caller that asks for it. -/
def bodyOf (schema : Document) : Document := .object [
  (.text "description", .text "on success"),
  (.text "content", .object [
    (.text "text/plain", .object []),
    (.text "application/json", .object [(.text "schema", schema)])])]

theorem jsonSchema?_bodyOf (schema : Document) :
    Content.jsonSchema? (bodyOf schema) = some schema := by
  rfl

def taskLists : Document := .object [
  (.text "type", .text "object"),
  (.text "additionalProperties", .object [
    (.text "type", .text "array"),
    (.text "items", .object [(.text "$ref", .text "#/components/schemas/Task")])])]

def taskReference : Document := .object [(.text "$ref", .text "#/components/schemas/Task")]

theorem alike_of_taskLists :
    (∃ bodyType, read (bodyOf taskLists) "ChildList" = .ok ⟨.map, some "list[Task]", none⟩ ∧
      BodyType.read (bodyOf taskLists) = .ok bodyType ∧
      bodyType.expression = "dict[str, list[Task]]") ∧
    ∃ bodyType, read (bodyOf taskReference) "ChildList" = .ok ⟨.scalar, some "Task", none⟩ ∧
      BodyType.read (bodyOf taskReference) = .ok bodyType ∧ bodyType.expression = "Task" := by
  have hlists : read (bodyOf taskLists) "ChildList" = .ok ⟨.map, some "list[Task]", none⟩ := by
    decide +kernel
  have hreference : read (bodyOf taskReference) "ChildList" = .ok ⟨.scalar, some "Task", none⟩ := by
    decide +kernel
  constructor
  · have halike := @alike_of_schema _ _ taskLists "ChildList" (jsonSchema?_bodyOf _)
      (jsonSchema?_bodyOf _) (by decide +kernel) (by decide +kernel) fun _ href => by cases href
    rw [hlists] at halike
    obtain ⟨bodyType, hbody, hsame, -⟩ := halike.exists_of_ok
    exact ⟨bodyType, hlists, hbody, hsame.symm⟩
  · have hother : ∀ reference, taskReference.get? "$ref" = some (.text reference) →
        (TypeShape.ofReference reference).render ≠ "ChildList" := by
      intro reference href
      cases href
      decide +kernel
    have halike := @alike_of_schema _ _ taskReference "ChildList" (jsonSchema?_bodyOf _)
      (jsonSchema?_bodyOf _) (by decide +kernel) (by decide +kernel) hother
    rw [hreference] at halike
    obtain ⟨bodyType, hbody, hsame, -⟩ := halike.exists_of_ok
    exact ⟨bodyType, hreference, hbody, hsame.symm⟩

end ResponseType

end ClientGen
