import ClientGen.Proofs.Document.Reordering
import ClientGen.Schema.Body

/-!
The types of schemas, parameters and bodies do not depend on the order of members.
-/
namespace ClientGen

open Document

namespace TypeShape

theorem ofItems_eq (around : List (Nat × Document)) (members : Members) :
    ofItems around members = (Members.get? members "items").map (ofSchemaWithin around) := by
  induction members with
  | nil => rfl
  | cons member rest ih =>
    obtain ⟨key, schema⟩ := member
    simp only [Members.get?, Members.find?] at ih
    cases hkey : key.same (.text "items") <;>
      simp [ofItems, Members.get?, Members.find?, hkey, ih]

theorem ofValues_eq (around : List (Nat × Document)) (members : Members) :
    ofValues around members = (Members.get? members "additionalProperties").bind fun schema =>
      if (schema.closed around).isObject then some (ofSchemaWithin around schema) else none := by
  induction members with
  | nil => rfl
  | cons member rest ih =>
    obtain ⟨key, schema⟩ := member
    simp only [Members.get?, Members.find?] at ih
    cases hkey : key.same (.text "additionalProperties")
    · simp [ofValues, Members.get?, Members.find?, hkey, ih]
    · simp only [ofValues, Members.get?, Members.find?, hkey, List.find?_cons, if_true,
        Option.map_some, Option.bind_some]

def ofParts (reference kind : Option Document) (items values : Option (Except Failure TypeShape))
    (otherwise : Failure) : Except Failure TypeShape :=
  match reference with
  | some (.text reference) => .ok (ofReference reference)
  | some _ => .error .unusable
  | none =>
    match kind with
    | some (.text "string") => .ok text
    | some (.text "array") =>
      match items with
      | some shape => shape.map list
      | none => .error .arrayWithoutItems
    | some (.text "object") =>
      match values with
      | some shape => shape.map map
      | none => .error .mapWithoutValues
    | _ => .error otherwise

theorem ofSchemaWithin_object (members : Members) :
    ofSchemaWithin [] (.object members) =
      ofParts (Members.get? members "$ref") (Members.get? members "type") (ofItems [] members)
        (ofValues [] members) (.unsupportedSchema (.of (.closed [] (.object members)))) := by
  unfold ofSchemaWithin ofParts
  rfl

theorem agree_ofParts {reference reference' kind kind' : Option Document}
    {items items' values values' : Option (Except Failure TypeShape)}
    (hreference : Option.Rel Reordered reference reference')
    (hkind : Option.Rel Reordered kind kind') (hitems : Option.Rel (Agree Eq) items items')
    (hvalues : Option.Rel (Agree Eq) values values') (otherwise otherwise' : Failure) :
    Agree Eq (ofParts reference kind items values otherwise)
      (ofParts reference' kind' items' values' otherwise') := by
  unfold ofParts
  cases hreference with
  | some href =>
    cases href with
    | scalar value => cases value <;> first | exact .ok rfl | exact .error _ _
    | _ => exact .error _ _
  | none =>
    cases hkind with
    | none => exact .error _ _
    | some hkind =>
      cases hkind with
      | scalar value =>
        dsimp only
        split
        next hvalue =>
          cases hvalue
          exact .ok rfl
        next hvalue =>
          cases hvalue
          cases hitems with
          | none => exact .error _ _
          | some hshape => exact hshape.map fun _ _ => congrArg list
        next hvalue =>
          cases hvalue
          cases hvalues with
          | none => exact .error _ _
          | some hshape => exact hshape.map fun _ _ => congrArg map
        · exact .error _ _
      | _ => exact .error _ _

/-- Related schemas stand for the same type or for none. -/
theorem agree_ofSchema {schema schema' : Document} (h : Reordered schema schema') :
    Agree Eq (ofSchema schema) (ofSchema schema') := by
  unfold ofSchema
  induction h with
  | scalar value => exact .error _ _
  | array _ _ => exact .error _ _
  | @object members members' once keys values ih =>
    rw [ofSchemaWithin_object, ofSchemaWithin_object]
    refine agree_ofParts (Members.rel_get? once keys values "$ref")
      (Members.rel_get? once keys values "type") ?_ ?_ _ _
    · rw [ofItems_eq, ofItems_eq]
      exact rel_map (Members.rel_get? once keys ih "items") fun _ _ hshape => hshape
    · rw [ofValues_eq, ofValues_eq]
      refine rel_bind (Members.rel_get? (P := fun schema schema' =>
        schema.isObject = schema'.isObject ∧
          Agree Eq (ofSchemaWithin [] schema) (ofSchemaWithin [] schema')) once keys
        (fun hmem hmem' => ⟨(values hmem hmem').isObject, ih hmem hmem'⟩)
        "additionalProperties") ?_
      rintro schema schema' ⟨hobject, hshape⟩
      change Option.Rel _ (if schema.isObject = true then _ else none)
        (if schema'.isObject = true then _ else none)
      rw [hobject]
      split
      · exact .some hshape
      · exact .none

end TypeShape

namespace Parameter

theorem agree_textType {schema schema' : Document} (h : Reordered schema schema')
    (operationId name : String) :
    Agree Eq (textType schema operationId name) (textType schema' operationId name) := by
  unfold textType
  rw [h.isSome_get? "pattern", (h.get "enum").isVoid]
  exact Agree.same

theorem agree_schemaType {schema schema' : Document} (h : Reordered schema schema')
    (operationId name : String) :
    Agree Eq (schemaType schema operationId name) (schemaType schema' operationId name) := by
  have href := h.rel_get? "$ref"
  unfold schemaType
  generalize schema.get? "$ref" = x at *
  generalize schema'.get? "$ref" = y at *
  cases href with
  | some href =>
    cases href with
    | scalar value => cases value <;> first | exact .ok rfl | exact .error _ _
    | _ => exact .error _ _
  | none =>
    dsimp only
    rw [(h.get "type").beq_scalar]
    split
    · exact agree_textType h operationId name
    · exact .error _ _

theorem describe_eq {value value' : Document} (h : Reordered value value') :
    describe value = describe value' := by
  have hvoid := h.isVoid
  cases h with
  | scalar value => rfl
  | _ => simp only [describe, hvoid]

theorem isDescription_eq {value value' : Document} (h : Reordered value value') :
    isDescription value = isDescription value' := by
  have hvoid := h.isVoid
  cases h with
  | scalar value => rfl
  | _ => simp only [isDescription, hvoid]

theorem agree_read {parameter parameter' : Document} (h : Reordered parameter parameter')
    (operationId : String) :
    Agree Eq (read parameter operationId) (read parameter' operationId) := by
  have hcontent := h.rel_get? "content"
  have hschema := h.rel_get? "schema"
  unfold read
  rw [h.isObject, (h.get "name").text?, isDescription_eq (h.get "description"),
    describe_eq (h.get "description")]
  generalize parameter.get? "content" = x at *
  generalize parameter'.get? "content" = y at *
  generalize parameter.get? "schema" = z at *
  generalize parameter'.get? "schema" = w at *
  split
  · exact .error _ _
  · exact .error _ _
  · split
    · exact .error _ _
    · split
      · exact .error _ _
      · cases hcontent with
        | some _ => exact .error _ _
        | none =>
          cases hschema with
          | none => exact .error _ _
          | some hschema =>
            refine (agree_schemaType hschema operationId _).bind ?_
            rintro type _ rfl
            exact Agree.same

end Parameter

/-- Contents that offer the same, with schemas that are the same up to order. -/
inductive Content.Reordered : Content → Content → Prop
  | json {schema schema' : Option Document}
      (related : Option.Rel Document.Reordered schema schema') :
      Content.Reordered (.json schema) (.json schema')
  | plain : Content.Reordered .plain .plain
  | other (content content' : Document) : Content.Reordered (.other content) (.other content')

namespace Content

theorem agree_mediaSchema {media media' : Document} (h : Document.Reordered media media') :
    Agree (Option.Rel Document.Reordered) (mediaSchema media) (mediaSchema media') := by
  have hfound := h.rel_get? "schema"
  unfold mediaSchema
  rw [h.isVoid, h.mentions?]
  generalize media.get? "schema" = x at *
  generalize media'.get? "schema" = y at *
  split
  · exact .ok .none
  · split
    · exact .error _ _
    · exact .ok .none
    · cases hfound with
      | none => exact .error _ _
      | some hschema => exact .ok (.some hschema)

theorem agree_of {body body' : Document} (h : Document.Reordered body body') :
    Agree Content.Reordered (Content.of body) (Content.of body') := by
  have hcontent := h.get "content"
  have hmedia := hcontent.rel_get? jsonType
  unfold Content.of
  simp only [h.isObject, hcontent.isVoid, hcontent.mentions?]
  generalize (body.get "content").get? jsonType = x at *
  generalize (body'.get "content").get? jsonType = y at *
  split
  · exact .error _ _
  · split
    · exact .ok (.other _ _)
    · split
      · exact .error _ _
      · cases hmedia with
        | none => exact .error _ _
        | some hmedia =>
          exact (agree_mediaSchema hmedia).bind fun _ _ hschema => .ok (.json hschema)
      · split
        · exact .ok .plain
        · exact .ok (.other _ _)

end Content

theorem BodyType.agree_read {body body' : Document} (h : Document.Reordered body body') :
    Agree Eq (BodyType.read body) (BodyType.read body') := by
  unfold BodyType.read
  refine (Content.agree_of h).bind ?_
  rintro content content' (⟨hschema⟩ | _ | ⟨other, other'⟩)
  · cases hschema with
    | none => exact .error _ _
    | some hschema =>
      refine (TypeShape.agree_ofSchema hschema).bind ?_
      rintro shape _ rfl
      exact Agree.same
  · exact .ok rfl
  · -- a body of other media types is refused, whatever these are
    dsimp only
    cases mediaTypes other <;> cases mediaTypes other' <;> exact .error _ _

namespace ResponseType

theorem agree_ofSchema {schema schema' : Document} (h : Document.Reordered schema schema')
    (idCollection : String) :
    Agree Eq (ofSchema schema idCollection) (ofSchema schema' idCollection) := by
  have href := h.rel_get? "$ref"
  have htype := h.rel_get? "type"
  have hitems := h.rel_get? "items"
  have hvalues := h.rel_get? "additionalProperties"
  unfold ofSchema
  generalize schema.get? "$ref" = reference at *
  generalize schema'.get? "$ref" = reference' at *
  generalize schema.get? "type" = type at *
  generalize schema'.get? "type" = type' at *
  generalize schema.get? "items" = items at *
  generalize schema'.get? "items" = items' at *
  generalize schema.get? "additionalProperties" = values at *
  generalize schema'.get? "additionalProperties" = values' at *
  cases href with
  | some href =>
    cases href with
    | scalar value =>
      dsimp only
      split
      · exact Agree.same
      · exact .error _ _
      · contradiction
    | _ => exact .error _ _
  | none =>
    dsimp only
    cases htype with
    | none => exact .error _ _
    | some htype =>
      cases htype with
      | scalar value =>
        split
        next hvalue =>
          cases hvalue
          exact .ok rfl
        next hvalue =>
          cases hvalue
          cases hitems with
          | some hitems =>
            exact (TypeShape.agree_ofSchema hitems).map fun _ _ hshape => by rw [hshape]
        next hvalue =>
          cases hvalue
          cases hvalues with
          | none => exact .error _ _
          | some hvalues =>
            simp only [hvalues.isObject]
            split
            · exact (TypeShape.agree_ofSchema hvalues).map fun _ _ hshape => by rw [hshape]
            · exact .error _ _
        next hstring hobject harray =>
          split
          next hvalue => exact (hstring hvalue).elim
          next hvalue =>
            cases hitems with
            | some _ => exact (harray _ hvalue rfl).elim
          next hvalue => exact (hobject hvalue).elim
          · exact .error _ _
      | _ => exact .error _ _

theorem agree_read {response response' : Document} (h : Document.Reordered response response')
    (idCollection : String) :
    Agree Eq (read response idCollection) (read response' idCollection) := by
  unfold read
  refine (Content.agree_of h).bind ?_
  rintro content content' (⟨hschema⟩ | _ | ⟨other, other'⟩)
  · cases hschema with
    | none => exact .error _ _
    | some hschema => exact agree_ofSchema hschema idCollection
  · exact .ok rfl
  · have hdescription := h.get "description"
    have hvoid := hdescription.isVoid
    generalize response.get "description" = x at *
    generalize response'.get "description" = y at *
    cases hdescription with
    | scalar value => exact Agree.same
    | _ =>
      simp only [hvoid]
      split
      · exact .ok rfl
      · exact .error _ _

end ResponseType

end ClientGen
