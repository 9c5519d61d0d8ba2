import ClientGen.Client.Descriptor
import ClientGen.Client.Docstring
import ClientGen.Client.Imports
import ClientGen.Client.Literal
import ClientGen.Client.Naming

/-!
The generic client: for every method a table from selectors, operation ids and paths to handlers,
which take their parameters as texts.
-/
namespace ClientGen.Client

inductive HandlerArgument where
  | tenant
  | token
  | parameter (index : Nat) (type : ParameterType)
  | body (type : BodyType)
deriving DecidableEq, Repr

def HandlerArgument.render : HandlerArgument → String
  | tenant => "client.tenant_name"
  | token => "await client.token()"
  | parameter index type =>
    let value := s!"parameters[{index}]"
    match type.kind with
    | .plain => value
    | .enumerated | .patterned => "parse_constructed(" ++ type.expression ++ ", " ++ value ++ ")"
    | .schema => "parse_json(" ++ type.expression ++ ", " ++ value ++ ")"
  | body type =>
    match type.kind with
    | .plain => "parse_json_string(body)"
    | .schema => "parse_json(" ++ type.expression ++ ", body)"

/-- The arguments that a handler passes: tenant, token, parameters in order, body. -/
def handlerArguments (operation : Operation) : List HandlerArgument :=
  .tenant :: (if operation.requiresToken then [.token] else []) ++
    (operation.parameters.mapIdx fun index parameter => .parameter index parameter.type) ++
    operation.body.toList.map .body

def descriptionLine? (description : Option String) : Option String :=
  match description with
  | some s => if s.isEmpty then none else some (Text.oneLine s)
  | none => none

def returnText (operation : Operation) : String :=
  let response := operation.okResponse
  match response.kind with
  | .nothing => "None when " ++ Text.oneLine (nonEmpty response.description "successful")
  | _ => response.expression

def commentLines (operation : Operation) : List String :=
  (operation.method.upperName ++ " " ++ operation.path) ::
    (operation.parameters.map fun parameter =>
      let typed := parameter.name ++ ": " ++ parameter.type.expression
      match descriptionLine? parameter.description with
      | some line => typed ++ ", " ++ line
      | none => typed) ++
    (operation.body.toList.map fun body => "body: " ++ body.expression) ++
    ["returns " ++ returnText operation]

def Descriptor.of (operation : Operation) : Descriptor where
  path := operation.path
  description := descriptionLine? operation.description
  parameters := operation.parameters.map fun parameter =>
    (parameter.name, parameter.type.expression, descriptionLine? parameter.description)
  bodyType := operation.body.map (·.expression)
  responseType := some
    (match operation.okResponse.kind with
      | .nothing => Text.oneLine (operation.okResponse.description.getD "")
      | _ => operation.okResponse.expression)

structure HandlerView where
  handler : String
  selector : String
  operationId : String
  comments : List String
  parameterCount : Nat
  checksBody : Bool
  bodyType : Option String
  hasResult : Bool
  process : String
  arguments : List HandlerArgument
  result : String
  descriptor : Descriptor
deriving DecidableEq, Repr

def processName (operation : Operation) : String :=
  if operation.okResponse.isText then "process_string" else "process"

def resultBinding (hasResult : Bool) : String := if hasResult then "_, result = " else ""

/-- The view of an operation's handler. Only calls that read give a result. -/
def HandlerView.of (operation : Operation) : HandlerView :=
  let hasResult := operation.method == .get && operation.okResponse.kind != .nothing
  { handler := handlerName operation
    selector := operation.selector
    operationId := operation.operationId
    comments := commentLines operation
    parameterCount := operation.parameters.length
    checksBody := operation.method.hasBody
    bodyType := operation.body.map (·.expression)
    hasResult
    process := processName operation
    arguments := handlerArguments operation
    result :=
      if !hasResult then "None"
      else if operation.okResponse.kind == .ids then "to_serializable(to_ids(result))"
      else "to_serializable(result)"
    descriptor := .of operation }

def HandlerView.render (view : HandlerView) : String :=
  "\n\nasync def " ++ view.handler ++
    "(client: Any, parameters: Sequence[str], body: Optional[str]) -> Any:\n" ++
    String.join (view.comments.map fun line => "    # " ++ line ++ "\n") ++
    s!"    check_parameters(parameters, {view.parameterCount})\n" ++
    (if view.checksBody then
      "    check_body(body, " ++ (Literal.ofText? view.bodyType).render ++ ")\n" else "") ++
    "    " ++ resultBinding view.hasResult ++ "await client." ++ view.process ++ "(\n" ++
    "        client.generated_client." ++ view.operationId ++ "(\n" ++
    String.join (view.arguments.map fun argument => "            " ++ argument.render ++ ",\n") ++
    "        )\n    )\n    return " ++ view.result ++ "\n"

def HandlerView.renderDescriptor (view : HandlerView) : String :=
  let d := view.descriptor
  let parameters : List Literal := d.parameters.map fun (name, type, description) =>
    .tuple [.text name, .text type, .ofText? description]
  "    (\n        " ++ (Literal.text view.selector).render ++ ",\n        MethodDescriptor(\n" ++
    "            path=" ++ (Literal.text d.path).render ++ ",\n" ++
    "            description=" ++ (Literal.ofText? d.description).render ++ ",\n" ++
    "            parameters=" ++ (Literal.tuple parameters).render ++ ",\n" ++
    "            body_type=" ++ (Literal.ofText? d.bodyType).render ++ ",\n" ++
    "            response_type=" ++ (Literal.ofText? d.responseType).render ++ ",\n" ++
    "        ),\n    ),\n"

def callKeys (operation : Operation) (byPath : Bool) : List String :=
  ([operation.selector, operation.operationId] ++
    if byPath then [operation.path] else []).eraseDups

/-- The entries of a dispatch table and the keys that more than one handler claims. -/
structure Dispatch where
  entries : List (String × String)
  clashes : List String
deriving DecidableEq, Repr

/-- Adds a key for a handler. The first handler keeps a key that another one claims. -/
def Dispatch.add (table : Dispatch) (key handler : String) : Dispatch :=
  match table.entries.lookup key with
  | none => { table with entries := table.entries ++ [(key, handler)] }
  | some owner =>
    if owner == handler then table else { table with clashes := table.clashes ++ [key] }

def Dispatch.addOperation (byPath : Bool) (table : Dispatch) (operation : Operation) : Dispatch :=
  (callKeys operation byPath).foldl (fun table key => table.add key (handlerName operation)) table

def dispatchKeys (method : Method) (operations : List Operation) (byPath : Bool) :
    Except Failure (List (String × String)) :=
  let table := operations.foldl (Dispatch.addOperation byPath) ⟨[], []⟩
  match table.clashes with
  | [] => .ok table.entries
  | clashes =>
    .error (.duplicateSelectors method (clashes.eraseDups.mergeSort fun a b => a ≤ b))

def methodDoc (method : Method) (operations : List Operation) : String :=
  let upper := method.upperName
  let result :=
    if method == .get then "The result is returned as JSON-compatible data."
    else "Only errors are reported; response data is discarded."
  let body :=
    if method.hasBody then
      ["``body`` is the JSON text of the request body, when the operation has one."]
    else []
  let selectors :=
    if operations.isEmpty then
      ["There are no supported selectors for the ``" ++ method.name ++ "`` method."]
    else
      ["Supported selectors:", ""] ++ operations.map fun operation =>
        "* ``" ++ operation.selector ++ "`` -- ``" ++ upper ++ " " ++ docText operation.path ++
          "``"
  let raises := ["", "Raises:", "    ConfigurationError: If the selector is not recognized.",
    "    ParameterError: If the parameters or body do not fit the operation."]
  docBlock (["Call a ``" ++ upper ++ "`` operation by selector.", "", result] ++ body ++ [""] ++
    selectors ++ raises) "        "

structure MethodView where
  method : Method
  handlers : List HandlerView
  dispatch : List (String × String)
  doc : String
deriving DecidableEq, Repr

def MethodView.of (method : Method) (operations : List Operation) (byPath : Bool) :
    Except Failure MethodView := do
  return {
    method
    handlers := operations.map HandlerView.of
    dispatch := ← dispatchKeys method operations byPath
    doc := methodDoc method operations }

def MethodView.render (view : MethodView) : String :=
  let constant := view.method.upperName
  "\n\n# --- " ++ view.method.name ++ " ---\n" ++
    String.join (view.handlers.map HandlerView.render) ++
    "\n\n_" ++ constant ++ "_HANDLERS: dict[str, Handler] = \x7b\n" ++
    String.join (view.dispatch.map fun (key, handler) =>
      "    " ++ (Literal.text key).render ++ ": " ++ handler ++ ",\n") ++
    "\x7d\n\n" ++ constant ++ "_METHODS: tuple[tuple[str, MethodDescriptor], ...] = (" ++
    (if view.handlers.isEmpty then ")\n"
     else "\n" ++ String.join (view.handlers.map HandlerView.renderDescriptor) ++ ")\n")

def MethodView.renderCoroutine (view : MethodView) : String :=
  let signature :=
    if view.method.hasBody then
      "(\n        self, selector: str, parameters: Sequence[str] = (), " ++
        "body: Optional[str] = None\n    ) -> Any:\n"
    else "(self, selector: str, parameters: Sequence[str] = ()) -> Any:\n"
  "\n    async def " ++ view.method.name ++ signature ++
    "        \"\"\"" ++ Text.trim view.doc ++ "\n        \"\"\"\n" ++
    "        return await _dispatch(\n            " ++ (Literal.text view.method.name).render ++
    ", _" ++ view.method.upperName ++ "_HANDLERS, self, selector, parameters, " ++
    (if view.method.hasBody then "body" else "None") ++ "\n        )\n"

def genericHead (version : String) (modules : Modules) (types : List String) : String :=
  "\"\"\"Generic client for the DSH resource management API.\n\nGenerated by dsh-api-build " ++
    generatorVersion ++ " from API version " ++ docText version ++ ". Do not edit.\n\n" ++
    "Operations are chosen by selector, operation id or path template and take\n" ++
    "their parameters as a list of strings::\n\n" ++
    "    bucket = await client.get(\"bucket\", [\"my-bucket\"])\n" ++
    "    await client.put(\"secret\", [\"my-secret\"], '\"ABCDEF\"')\n\n" ++
    "``get`` returns JSON-compatible data, the other methods return ``None``.\n\"\"\"\n\n" ++
    "from __future__ import annotations\n\n" ++
    "from collections.abc import Awaitable, Callable, Sequence\n" ++
    "from typing import Any, Optional\n\nfrom " ++ modules.runtime ++ " import (\n" ++
    String.join (["ConfigurationError", "MethodDescriptor", "check_body", "check_parameters",
      "parse_constructed", "parse_json", "parse_json_string", "to_ids", "to_serializable"].map
        fun name => "    " ++ name ++ ",\n") ++
    ")\n" ++ typeImport modules types ++
    "\nHandler = Callable[[Any, Sequence[str], Optional[str]], Awaitable[Any]]\n"

/-- The part of the generic module between the tables and the coroutines. -/
def genericDispatch : String :=
  "\n\nasync def _dispatch(\n    method: str,\n    handlers: dict[str, Handler],\n" ++
    "    client: Any,\n    selector: str,\n    parameters: Sequence[str],\n" ++
    "    body: Optional[str],\n) -> Any:\n    if not handlers:\n" ++
    "        raise ConfigurationError(f\"no \x7bmethod\x7d methods available\")\n" ++
    "    handler = handlers.get(selector)\n    if handler is None:\n" ++
    "        raise ConfigurationError(f\"\x7bmethod\x7d method selector " ++
    "'\x7bselector\x7d' not recognized\")\n" ++
    "    return await handler(client, parameters, body)\n\n\nclass GenericClientMixin:\n" ++
    "    \"\"\"Generic ``get``, ``delete``, ``post`` and ``put`` calls.\n\n" ++
    "    Mixed into the DSH API client, which provides ``generated_client``,\n" ++
    "    ``tenant_name``, ``token()``, ``process()`` and ``process_string()``.\n    \"\"\"\n"

def renderGeneric (collection : Collection) (modules : Modules) (byPath : Bool)
    (document : Document) : Except Failure String := do
  match repeated (collection.operations.map handlerName) with
  | [] =>
    let methods ← collection.mapM fun (method, operations) =>
      MethodView.of method operations byPath
    let version ← documentVersion document
    let types ← importedTypes collection.operations
    return genericHead version modules types ++ String.join (methods.map MethodView.render) ++
      genericDispatch ++ String.join (methods.map MethodView.renderCoroutine)
  | duplicates => .error (.duplicateHandlers duplicates)

end ClientGen.Client
