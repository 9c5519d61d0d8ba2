import ClientGen.Schema.TypeShape
import ClientGen.Text.Case
import ClientGen.Text.Utf8

/-!
The types of parameters. Text may be limited by an enumeration or a pattern; such a parameter has a
type of its own, named after the operation and the parameter.
-/
namespace ClientGen

/-- How the text of a parameter becomes a value: as it is, by an enumeration, by a pattern, or as
JSON of a named schema. -/
inductive ParameterKind where
  | plain
  | enumerated
  | patterned
  | schema
deriving DecidableEq, Repr

structure ParameterType where
  kind : ParameterKind
  typeName : Option String
deriving DecidableEq, Repr

def nonEmpty (name : Option String) (otherwise : String) : String :=
  match name with
  | some name => if name.isEmpty then otherwise else name
  | none => otherwise

namespace ParameterType

def expression (type : ParameterType) : String :=
  match type.kind with
  | .plain => "str"
  | _ => nonEmpty type.typeName "str"

/-- Whether the value is made from the text by the type itself. -/
def isConstructed (type : ParameterType) : Bool :=
  type.kind == .enumerated || type.kind == .patterned

end ParameterType

structure Parameter where
  name : String
  type : ParameterType
  description : Option String
deriving DecidableEq, Repr

namespace Parameter

/-- The name of the type of a parameter that is limited by an enumeration or a pattern: the words
of the operation id and the name of the parameter, each with a capital. -/
def typeNameFor (operationId name : String) : String :=
  String.join (((operationId.toList.splitOn '_').map fun word => Text.capitalize (.ofList word)) ++
    [Text.capitalize name])

def textType (schema : Document) (operationId name : String) : Except Failure ParameterType :=
  let patterned := (schema.get? "pattern").isSome
  let enumerated := !(schema.get "enum").isVoid
  let typeName := typeNameFor operationId name
  match patterned, enumerated with
  | true, true => .error (.patternAndEnum name operationId)
  | false, true => .ok ⟨.enumerated, some typeName⟩
  | true, false => .ok ⟨.patterned, some typeName⟩
  | false, false => .ok ⟨.plain, none⟩

def schemaType (schema : Document) (operationId name : String) : Except Failure ParameterType :=
  match schema.get? "$ref" with
  | some (.text reference) =>
    .ok ⟨.schema, some (TypeShape.ofReference reference).render⟩
  | some _ => .error .unusable
  | none =>
    if schema.get "type" == .text "string" then textType schema operationId name
    else .error (.unsupportedParameterType name operationId (.of schema))

/-- Whether a value is taken for a description: nothing, a text or bytes. -/
def isDescription (value : Document) : Bool :=
  value.isVoid ||
    match value with
    | .text _ | .scalar (.bytes _) => true
    | _ => false

/-- The description that a value gives. One that counts as nothing is none, and bytes must encode a
text, of which only a first letter of ASCII becomes a capital. -/
def describe (value : Document) : Except Failure (Option String) :=
  if value.isVoid then .ok none
  else
    match value with
    | .text s => .ok (some (Text.capitalize s))
    | .scalar (.bytes bytes) =>
      match Text.ofBytes? bytes with
      | some s => .ok (some (Text.capitalizeAscii s))
      | none => .error .unusable
    | _ => .error .unusable

def read (parameter : Document) (operationId : String) : Except Failure Parameter := do
  match parameter.isObject, (parameter.get "name").text? with
  | false, _ => .error .unusable
  | true, none => .error (.parameterWithoutName operationId)
  | true, some name =>
    if name.isEmpty then .error (.parameterWithoutName operationId)
    else if !isDescription (parameter.get "description") then .error .unusable
    else
      match parameter.get? "content", parameter.get? "schema" with
      | none, some schema =>
        let type ← schemaType schema operationId name
        return ⟨name, type, ← describe (parameter.get "description")⟩
      | _, _ => .error (.parameterWithoutSchema name operationId)

end Parameter

end ClientGen
