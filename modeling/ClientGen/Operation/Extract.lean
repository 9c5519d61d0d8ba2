import ClientGen.Operation.Selector
import ClientGen.Text.Identifier
import ClientGen.Text.Blank

/-!
Operations read from a document whose operations have ids. Parameters, bodies and responses may be
references; parameters of the path item are joined with those of the operation.
-/
namespace ClientGen.Operation

def paths (document : Document) : Except Failure Members :=
  if !document.isObject then .error .unusable
  else
    match (document.get "paths").membersOrVoid? with
    | some paths => .ok paths
    | none => .error .unusable

def rawOf (document : Document) (method : Method) : Except Failure (List (Scalar × Document)) := do
  let items ← (← paths document).mapM fun (path, item) => do
    return (path, (← Reference.resolve document item).get? method.name)
  return items.filterMap fun
    | (path, some operation) => if operation.isObject then some (path, operation) else none
    | (_, none) => none

/-- Header names are the same in any letter case. -/
def isAuthorizationName (name : Document) : Bool :=
  match name with
  | .text s => Text.lower s == "authorization"
  | _ => false

def isAuthorization (parameter : Document) : Bool :=
  isAuthorizationName (parameter.get "name") && parameter.get "in" == .text "header"

def resolveParameter (document parameter : Document) : Except Failure Document :=
  match Reference.resolve document parameter with
  | .ok resolved =>
    if resolved.isObject then .ok resolved else .error (.unsupportedParameter parameter)
  | .error (.reference fault) => .error (.unresolvableParameter fault)
  | .error failure => .error failure

def parameterObjects (document holder : Document) : Except Failure (List Document) :=
  let parameters := holder.get "parameters"
  if parameters.isVoid then .ok []
  else
    match parameters.elements? with
    | some elements => elements.mapM (resolveParameter document)
    | none => .error .unusable

/-- What tells parameters apart: name and place. A container is no name. -/
def parameterKey (parameter : Document) : Except Failure (Scalar × Scalar) :=
  match parameter.get "name", parameter.get "in" with
  | .scalar name, .scalar place => .ok (name.canonical, place.canonical)
  | _, _ => .error .unusable

def pathItem (document : Document) (path : String) : Except Failure Document := do
  let item := (Members.get? (← paths document) path).getD .null
  Reference.resolve document (if item.isVoid then .object [] else item)

/-- The parameters of the path item that the operation does not declare itself, then those of the
operation. -/
def mergedParameters (document : Document) (path : String) (operation : Document) :
    Except Failure (List Document) := do
  let item ← pathItem document path
  if !item.isObject then .error .unusable
  else
    let inherited ← parameterObjects document item
    let own ← parameterObjects document operation
    let declared ← own.mapM parameterKey
    let keyed ← inherited.mapM fun parameter => return (← parameterKey parameter, parameter)
    return (keyed.filter fun pair => !declared.contains pair.1).map (·.2) ++ own

/-- The parameters that the caller gives, and whether the operation takes a token. The first
parameter is the tenant. -/
def callerParameters (parameters : List Document) (operationId : String) (method : Method)
    (path : String) : Except Failure (List Parameter × Bool) :=
  match parameters with
  | [] => .ok ([], false)
  | tenant :: rest => do
    if isAuthorization tenant then .error (.noTenantParameter method path)
    else
      let given ← (rest.filter fun parameter => !isAuthorization parameter).mapM fun parameter =>
        Parameter.read parameter operationId
      return (given, rest.any isAuthorization)

/-- The status that a response code writes. Codes that are no digits have none. -/
def status? (code : Scalar) : Except Failure (Option Nat) :=
  if Text.isDigits code.display then
    match Text.integer? code.display with
    | some status => .ok (some status.toNat)
    | none => .error .unusable
  else .ok none

def responseTypes (document : Document) (idCollection : String) (operation : Document) :
    Except Failure (List (Nat × ResponseType)) := do
  match (operation.get "responses").membersOrVoid? with
  | none => .error .unusable
  | some responses =>
    let types ← responses.mapM fun (code, response) => do
      match ← status? code with
      | none => return none
      | some status =>
        return some (status,
          ← ResponseType.read (← Reference.resolve document response) idCollection)
    return types.filterMap id

def isOk (status : Nat) : Bool := 200 ≤ status && status < 300

def leastResponse? : List (Nat × ResponseType) → Option (Nat × ResponseType)
  | [] => none
  | response :: rest =>
    match leastResponse? rest with
    | some other => if other.1 < response.1 then some other else some response
    | none => some response

/-- A summary as a sentence: trimmed, with a capital and a period. -/
def sentence (s : String) : String :=
  let trimmed := Text.trim s
  if trimmed.isEmpty then trimmed
  else
    let capitalized := Text.capitalize trimmed
    if capitalized.toList.getLast? == some '.' then capitalized else capitalized ++ "."

def summary? (operation : Document) : Option String :=
  match operation.get "summary" with
  | .text s => if (sentence s).isEmpty then none else some (sentence s)
  | _ => none

def bodyType? (document operation : Document) : Except Failure (Option BodyType) := do
  let body := operation.get "requestBody"
  if body.isNull then return none
  else return some (← BodyType.read (← Reference.resolve document body))

def idOf? (operation : Document) : Option String :=
  match operation.get "operationId" with
  | .text id => if id.isEmpty then none else some id
  | _ => none

/-- Reads one operation. Its selector is the one it has if no other takes it. -/
def extract (method : Method) (path : String) (operation document : Document)
    (idCollection : String) : Except Failure Operation := do
  if !operation.isObject then .error .unusable
  else
    match idOf? operation with
    | none => .error (.missingOperationId method path)
    | some operationId =>
      let template ← PathTemplate.parse path
      let kind ← template.kind path
      let (parameters, requiresToken) ←
        callerParameters (← mergedParameters document path operation) operationId method path
      let body ← bodyType? document operation
      let responses ← responseTypes document idCollection operation
      let okResponses := responses.filter fun response => isOk response.1
      match leastResponse? okResponses with
      | none => .error (.noOkResponse method path)
      | some (_, okResponse) =>
        return {
          method, path, template, parameters, requiresToken, body, operationId, okResponse,
          okResponses, kind
          description := summary? operation
          selector := Selector.of template okResponse false
          errorResponses := responses.filter fun response => !isOk response.1 }

/-- Reads the operation under a key of the paths. A key that is no text is no path. -/
def extractAt (method : Method) (key : Scalar) (operation document : Document)
    (idCollection : String) : Except Failure Operation :=
  match key with
  | .text path => extract method path operation document idCollection
  | key =>
    match idOf? operation with
    | none => .error (.missingOperationId method key.display)
    | some _ => .error .unusable

def refuse (document : Document) (method : Method) : Except Failure Unit := do
  match ← rawOf document method with
  | [] => return ()
  | operations =>
    match operations.mapM fun operation => (Document.scalar operation.1).text? with
    | some paths => .error (.unsupportedMethod method paths)
    | none => .error .unusable

/-- The operations of one method, with unique selectors and in the order of the generated text. -/
def collectMethod (document : Document) (idCollection : String) (method : Method) :
    Except Failure (List Operation) := do
  let operations ← (← rawOf document method).mapM fun (key, operation) =>
    extractAt method key operation document idCollection
  return sort (← assignSelectors method operations)

def collect (document : Document) (idCollection : String) : Except Failure Collection := do
  Method.unsupported.forM (refuse document)
  Method.supported.mapM fun method =>
    return (method, ← collectMethod document idCollection method)

end ClientGen.Operation
