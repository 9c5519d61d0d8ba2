import ClientGen.Operation.Identifier
import ClientGen.Operation.Extract

/-!
Prepared documents: paths of kinds that were not asked for are left out, every operation has an
authorization header and an id, and the description says so.
-/
namespace ClientGen.Update

def authorization : Document :=
  .object [
    (.text "name", .text "Authorization"), (.text "in", .text "header"),
    (.text "description", .text "Authorization header (bearer token)"),
    (.text "required", .bool true), (.text "deprecated", .bool false),
    (.text "schema", .object [(.text "type", .text "string")])]

def note : String :=
  "Updated from original version (added authorization parameters and operation ids)"

def methods : List String :=
  ["get", "put", "post", "delete", "options", "head", "patch", "trace"]

/-- The kinds that are left out when only `features` are asked for. -/
def disabled (features : List String) : List Kind :=
  Kind.optional.filter fun kind => !features.contains kind.name

def pathStart (kind : Kind) : String := "/" ++ kind.name ++ "/"

def isPruned (features : List String) (path : String) : Bool :=
  (disabled features).any fun kind => Text.startsWith path (pathStart kind)

/-- The paths that stay. Every key must be a text when some kind is left out. -/
def prune (features : List String) (paths : Members) : Except Failure Members :=
  if (disabled features).isEmpty then .ok paths
  else if paths.all fun path => (Document.scalar path.1).text?.isSome then
    .ok (paths.filter fun path =>
      match path.1 with
      | .text path => !isPruned features path
      | _ => true)
  else .error .unusable

/-- The parameters of an operation with the authorization header, which is added at the end unless
it stands among them. -/
def withAuthorization (operation : Members) : Except Failure Members :=
  match ((Members.get? operation "parameters").getD (.array [])).untie with
  | .array parameters =>
    .ok (Members.put operation "parameters" (.array
      (if parameters.any Operation.isAuthorization then parameters
       else parameters ++ [authorization])))
  | _ => .error .unusable

def updateOperation (template : PathTemplate) (method : String) (operation : Members) :
    Except Failure Members := do
  let operation ← withAuthorization operation
  return Members.put operation "operationId" (.text (← Operation.synthesizeId method template))

def updateMethod (template : PathTemplate) (item : Members) (method : String) :
    Except Failure Members :=
  match (Members.get? item method).map Document.untie with
  | some (.object operation) => do
    return Members.put item method (.object (← updateOperation template method operation))
  | _ => .ok item

def updateItem (template : PathTemplate) (item : Document) : Except Failure Document :=
  match item.untie with
  | .object members => return .object (← methods.foldlM (updateMethod template) members)
  | _ => .ok item

def updatePath (path : Scalar × Document) : Except Failure (Scalar × Document) :=
  match path with
  | (.text name, item) => do
    let template ← PathTemplate.parse name
    return (.text name, ← updateItem template item)
  | _ => .error .unusable

def noted (description : Document) : String :=
  if description.isVoid then note else description.display ++ "\n" ++ note

def updateInfo (info : Document) : Except Failure Document :=
  match info.untie with
  | .object info =>
    .ok (.object (Members.put info "description"
      (.text (noted ((Members.get? info "description").getD .null)))))
  | _ => .error .unusable

def update (features : List String) (document : Document) : Except Failure Document :=
  match document.untie with
  | .object members =>
    match ((Members.get? members "paths").getD (.object [])).untie with
    | .object paths => do
      let paths ← (← prune features paths).mapM updatePath
      let members := Members.put members "paths" (.object paths)
      let info ← updateInfo ((Members.get? members "info").getD (.object []))
      return .object (Members.put members "info" info)
    | _ => .error .unusable
  | _ => .error .unusable

end ClientGen.Update
