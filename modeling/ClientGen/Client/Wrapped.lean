import ClientGen.Client.Docstring
import ClientGen.Client.Generic
import ClientGen.Client.Imports
import ClientGen.Client.Naming

/-!
The wrapped client: one typed method for every operation.
-/
namespace ClientGen.Client

inductive MethodArgument where
  | tenant
  | token
  | named (name : String)
  | body
deriving DecidableEq, Repr

def MethodArgument.render : MethodArgument → String
  | tenant => "self.tenant_name"
  | token => "await self.token()"
  | named name => name
  | body => "body"

def docTitle (operation : Operation) : String :=
  operation.method.title ++ " " ++
    .ofList (operation.selector.toList.map fun c => if c == '-' then ' ' else c) ++ "."

def argumentLines (operation : Operation) (names : List String) : List String :=
  if operation.parameters.isEmpty && operation.body.isNone then []
  else
    ["", "Args:"] ++
      ((names.zip operation.parameters).map fun (name, parameter) =>
        "    " ++ name ++ ": " ++ docText
          ((descriptionLine? parameter.description).getD parameter.type.expression)) ++
      operation.body.toList.map fun body =>
        "    body: Request body, " ++ docText body.expression ++ "."

def docLines (operation : Operation) (names : List String) : List String :=
  [docText (docTitle operation), ""] ++
    (match descriptionLine? operation.description with
      | some line => [docText line, ""]
      | none => []) ++
    ["``" ++ operation.method.upperName ++ " " ++ docText operation.path ++ "``"] ++
    (if operation.kind == .allocation then []
     else
      ["", "Only available when the ``" ++ operation.kind.name ++ "`` feature is enabled."]) ++
    argumentLines operation names ++
    (if operation.okResponse.kind == .nothing then []
     else ["", "Returns:", "    " ++ docText operation.okResponse.expression])

structure WrappedView where
  name : String
  signature : List (String × Option String)
  returns : String
  doc : String
  process : String
  operationId : String
  arguments : List MethodArgument
  result : Option String
deriving DecidableEq, Repr

def WrappedView.of (operation : Operation) : Except Failure WrappedView := do
  let names ← argumentNames operation
  return {
    name := methodName operation
    signature := ("self", none) ::
      (names.zip operation.parameters).map
        (fun (name, parameter) => (name, some parameter.type.expression)) ++
      operation.body.toList.map fun body => ("body", some body.expression)
    returns := operation.okResponse.expression
    doc := docBlock (docLines operation names) "        "
    process := processName operation
    operationId := operation.operationId
    arguments := .tenant :: (if operation.requiresToken then [.token] else []) ++
      names.map .named ++ (if operation.body.isSome then [.body] else [])
    result :=
      match operation.okResponse.kind with
      | .nothing => none
      | .ids => some "to_ids(result)"
      | _ => some "result" }

def WrappedView.signatureText (view : WrappedView) : String :=
  ", ".intercalate (view.signature.map fun
    | (name, some type) => name ++ ": " ++ type
    | (name, none) => name)

def WrappedView.render (view : WrappedView) : String :=
  "\n    async def " ++ view.name ++ "(" ++ view.signatureText ++ ") -> " ++ view.returns ++
    ":\n        \"\"\"" ++ Text.trim view.doc ++ "\n        \"\"\"\n        " ++
    resultBinding view.result.isSome ++ "await self." ++ view.process ++ "(\n" ++
    "            self.generated_client." ++ view.operationId ++ "(\n" ++
    String.join (view.arguments.map fun argument =>
      "                " ++ argument.render ++ ",\n") ++
    "            )\n        )\n" ++
    (match view.result with
      | some result => "        return " ++ result ++ "\n"
      | none => "")

def wrappedHead (version : String) (modules : Modules) (types : List String) (usesIds : Bool) :
    String :=
  "\"\"\"Typed client methods for the DSH resource management API.\n\n" ++
    "Generated by dsh-api-build " ++ generatorVersion ++ " from API version " ++
    docText version ++ ". Do not edit.\n\n" ++
    "Each method wraps one operation of the typed client. The tenant name and,\n" ++
    "where required, the bearer token are supplied by the client itself.\n\"\"\"\n\n" ++
    "from __future__ import annotations\n" ++
    (if usesIds then "\nfrom " ++ modules.runtime ++ " import to_ids\n" else "") ++
    (if !types.isEmpty && !usesIds then "\n" else "") ++ typeImport modules types ++
    "\n\nclass WrappedClientMixin:\n" ++
    "    \"\"\"One typed coroutine per API operation, " ++
    "named ``\x7bmethod\x7d_\x7bselector\x7d``.\n\n" ++
    "    Mixed into the DSH API client, which provides ``generated_client``,\n" ++
    "    ``tenant_name``, ``token()``, ``process()`` and ``process_string()``.\n    \"\"\"\n"

def renderWrapped (operations : List Operation) (modules : Modules) (document : Document) :
    Except Failure String := do
  match repeated (operations.map methodName) with
  | [] =>
    let version ← documentVersion document
    let types ← importedTypes operations
    let usesIds := operations.any fun operation => operation.okResponse.kind == .ids
    let views ← operations.mapM WrappedView.of
    return wrappedHead version modules types usesIds ++
      (if views.isEmpty then "\n    pass\n" else String.join (views.map WrappedView.render))
  | duplicates => .error (.duplicateMethods duplicates)

end ClientGen.Client
