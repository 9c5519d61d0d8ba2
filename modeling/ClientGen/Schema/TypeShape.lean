import ClientGen.Document.Reference

/-!
The types that schemas stand for: text, named schemas, and lists and text-keyed maps of those. The
written form of a type is a type expression of the generated code.
-/
namespace ClientGen

/-- The type that a schema stands for. `elsewhere` is a reference that leads to no schema of the
document, kept so that messages can show it. -/
inductive TypeShape where
  | text
  | named (name : String)
  | elsewhere (reference : String)
  | list (item : TypeShape)
  | map (value : TypeShape)
deriving DecidableEq, Repr

namespace TypeShape

def render : TypeShape → String
  | text => "str"
  | named name => name
  | elsewhere reference => "$ref: " ++ reference
  | list item => "list[" ++ item.render ++ "]"
  | map value => "dict[str, " ++ value.render ++ "]"

def ofReference (reference : String) : TypeShape :=
  match Text.dropStart? Reference.schemaPlace reference with
  | some name => named name
  | none => elsewhere reference

def innermost : TypeShape → TypeShape
  | list item => item.innermost
  | map value => value.innermost
  | shape => shape

end TypeShape

def SchemaShape.of (schema : Document) : SchemaShape :=
  match schema.get? "type" with
  | some type => .typed type
  | none =>
    match ["oneOf", "anyOf", "allOf", "not"].find? fun name => (schema.get? name).isSome with
    | some combinator => .combined combinator
    | none => .untyped

namespace TypeShape

mutual

/-- The type that a schema inside of knots stands for. A schema that leads back to itself stands for
none. -/
def ofSchemaWithin (around : List (Nat × Document)) : Document → Except Failure TypeShape
  | .object members =>
    match Members.get? members "$ref" with
    | some (.text reference) => .ok (ofReference reference)
    | some _ => .error .unusable
    | none =>
      match Members.get? members "type" with
      | some (.text "string") => .ok text
      | some (.text "array") =>
        match ofItems around members with
        | some shape => shape.map list
        | none => .error .arrayWithoutItems
      | some (.text "object") =>
        match ofValues around members with
        | some shape => shape.map map
        | none => .error .mapWithoutValues
      | _ => .error (.unsupportedSchema (.of (.closed around (.object members))))
  | .knot mark content =>
    let whole := Document.closed around (.knot mark content)
    if content.isObject then ofSchemaWithin ((mark, whole) :: around) content
    else .error (.unsupportedValue whole)
  | .back _ => .error .unusable
  | schema => .error (.unsupportedValue (schema.closed around))

def ofItems (around : List (Nat × Document)) :
    List (Scalar × Document) → Option (Except Failure TypeShape)
  | [] => none
  | (key, schema) :: rest =>
    if key.same (.text "items") then some (ofSchemaWithin around schema)
    else ofItems around rest

/-- The type of the values of an object schema, whose schema must be an object. -/
def ofValues (around : List (Nat × Document)) :
    List (Scalar × Document) → Option (Except Failure TypeShape)
  | [] => none
  | (key, schema) :: rest =>
    if key.same (.text "additionalProperties") then
      if (schema.closed around).isObject then some (ofSchemaWithin around schema) else none
    else ofValues around rest

end

def ofSchema (schema : Document) : Except Failure TypeShape := ofSchemaWithin [] schema

end TypeShape

end ClientGen
