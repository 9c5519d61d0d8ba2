import ClientGen.Schema.Parameter

/-!
The types of request and response bodies. JSON comes before plain text; a response with neither has
no body, and its description says when the call succeeds.
-/
namespace ClientGen

/-- How a request body is written: as a plain text or as JSON of a type. -/
inductive BodyKind where
  | plain
  | schema
deriving DecidableEq, Repr

structure BodyType where
  kind : BodyKind
  typeName : Option String
deriving DecidableEq, Repr

def BodyType.expression (type : BodyType) : String :=
  match type.kind with
  | .plain => "str"
  | .schema => nonEmpty type.typeName "str"

inductive ResponseKind where
  | nothing
  | scalar
  | collection
  | map
  | ids
  | plain
deriving DecidableEq, Repr

/-- The type of a response: of the value itself, or of the items or values of a container. -/
structure ResponseType where
  kind : ResponseKind
  typeName : Option String
  description : Option String
deriving DecidableEq, Repr

namespace ResponseType

def expression (type : ResponseType) : String :=
  match type.kind with
  | .nothing => "None"
  | .scalar => nonEmpty type.typeName "Any"
  | .collection => "list[" ++ type.typeName.getD "None" ++ "]"
  | .map => "dict[str, " ++ type.typeName.getD "None" ++ "]"
  | .ids => "list[str]"
  | .plain => "str"

/-- What a container adds to the short name of its operation. -/
def suffix (type : ResponseType) : String :=
  match type.kind with
  | .ids => "-ids"
  | .map => "-map"
  | .collection => "s"
  | .nothing | .scalar | .plain => ""

def isText (type : ResponseType) : Bool := type.kind == .plain

end ResponseType

inductive Content where
  | json (schema : Option Document)
  | plain
  | other (content : Document)

namespace Content

def jsonType : String := "application/json"

def textType : String := "text/plain"

def mediaSchema (media : Document) : Except Failure (Option Document) :=
  if media.isVoid then .ok none
  else
    match media.mentions? "schema" with
    | none => .error .unusable
    | some false => .ok none
    | some true =>
      match media.get? "schema" with
      | some schema => .ok (some schema)
      | none => .error .unusable

/-- The content of a body object. A value that mentions a media type without being an object gives
no schema to read. -/
def of (body : Document) : Except Failure Content := do
  if !body.isObject then .error .unusable
  else
    let content := body.get "content"
    if content.isVoid then return other (.object [])
    else
      match content.mentions? jsonType with
      | none => .error .unusable
      | some true =>
        match content.get? jsonType with
        | some media => return json (← mediaSchema media)
        | none => .error .unusable
      | some false =>
        if content.mentions? textType == some true then return plain else return other content

end Content

def mediaTypes (content : Document) : Except Failure (List String) :=
  match content.elements?.bind fun elements => elements.mapM Document.text? with
  | some names => .ok (names.mergeSort fun a b => a ≤ b)
  | none => .error .unusable

def BodyType.read (body : Document) : Except Failure BodyType := do
  match ← Content.of body with
  | .json (some schema) => return ⟨.schema, some (← TypeShape.ofSchema schema).render⟩
  | .json none => .error .bodyWithoutSchema
  | .plain => return ⟨.plain, none⟩
  | .other content => .error (.bodyMediaTypes (← mediaTypes content))

namespace ResponseType

/-- The type of a JSON response of a schema. A reference to the schema of id collections is a list
of ids. -/
def ofSchema (schema : Document) (idCollection : String) : Except Failure ResponseType :=
  match schema.get? "$ref" with
  | some (.text reference) =>
    let name := (TypeShape.ofReference reference).render
    if name == idCollection then .ok ⟨.ids, none, none⟩ else .ok ⟨.scalar, some name, none⟩
  | some _ => .error .unusable
  | none =>
    match schema.get? "type", schema.get? "items" with
    | some (.text "string"), _ => .ok ⟨.plain, none, none⟩
    | some (.text "array"), some items =>
      (TypeShape.ofSchema items).map fun shape => ⟨.collection, some shape.render, none⟩
    | some (.text "object"), _ =>
      match schema.get? "additionalProperties" with
      | some values =>
        if values.isObject then
          (TypeShape.ofSchema values).map fun shape => ⟨.map, some shape.render, none⟩
        else .error .mapWithoutValues
      | none => .error .mapWithoutValues
    | _, _ => .error (.unsupportedResponse (.of schema))

def read (response : Document) (idCollection : String) : Except Failure ResponseType := do
  match ← Content.of response with
  | .json (some schema) => ofSchema schema idCollection
  | .json none => .error .responseWithoutSchema
  | .plain => return ⟨.plain, none, none⟩
  | .other _ =>
    let description := response.get "description"
    if description.isVoid then return ⟨.nothing, none, some ""⟩
    else
      match description with
      | .text s => return ⟨.nothing, none, some s⟩
      | .scalar (.bytes bytes) =>
        match Text.ofBytes? bytes with
        | some s => return ⟨.nothing, none, some s⟩
        | none => .error .unusable
      | _ => .error .unusable

end ResponseType

end ClientGen
