import ClientGen.Operation.Basic
import ClientGen.Operation.Selector
import ClientGen.TypeExpression

/-!
What every generated module needs to know: the version of the API it was made from and the schema
types it imports.
-/
namespace ClientGen.Client

def generatorVersion : String := "0.6.1"

def documentVersion (document : Document) : Except Failure String :=
  if !document.isObject then .error .unusable
  else
    match (document.get "info").membersOrVoid? with
    | none => .error .unusable
    | some info =>
      let version := (Members.get? info "version").getD .null
      .ok (if version.isNull then "unknown" else version.display)

/-- The type texts of an operation whose names have to be imported. -/
def typeTexts (operation : Operation) : List String :=
  (operation.parameters.filter fun parameter => parameter.type.kind != .plain).map
      (fun parameter => parameter.type.expression) ++
    (match operation.body with
      | some body => if body.kind == .schema then [body.expression] else []
      | none => []) ++
    (if operation.okResponse.kind == .nothing then [] else [operation.okResponse.expression])

/-- The names that a module for the operations imports, each once, in ascending order. -/
def importedTypes (operations : List Operation) : Except Failure (List String) := do
  let names ← (operations.flatMap typeTexts).mapM typeNames
  return names.flatten.eraseDups.mergeSort fun a b => a ≤ b

structure Modules where
  runtime : String
  types : String
deriving DecidableEq, Repr

def typeImport (modules : Modules) (names : List String) : String :=
  if names.isEmpty then ""
  else
    "from " ++ modules.types ++ " import (\n" ++
      String.join (names.map fun name => "    " ++ name ++ ",\n") ++ ")\n"

end ClientGen.Client
