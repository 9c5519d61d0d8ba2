import ClientGen.Document.Update
import ClientGen.Document.Web

/-!
Preparing a web: the same changes as for a tree, one after another, each in the cell that it is
about. An operation that several paths link to keeps the id of the last of them.
-/
namespace ClientGen.Web

open Update

def put (web : Web) (index : Nat) (name : String) (link : Link) : Web :=
  match web.object? (.cell index) with
  | some (_, members) => web.set index (.object (Members.put members name link))
  | none => web

/-- The link of a named member of an object cell, which takes a new value if it is absent. -/
def getOrPut (web : Web) (index : Nat) (name : String) (default : Document) : Web × Link :=
  match (web.object? (.cell index)).bind fun object => Members.get? object.2 name with
  | some link => (web, link)
  | none =>
    let (web, link) := web.plant default
    (web.put index name link, link)

/-- Leaves out the paths of kinds that are not asked for. Every key must be a text when some kind is
left out. -/
def prune (features : List String) (index : Nat) (web : Web) : Except Failure Web :=
  match web.object? (.cell index) with
  | none => .error .unusable
  | some (_, paths) =>
    if (disabled features).isEmpty then .ok web
    else if paths.all fun path => (Document.scalar path.1).text?.isSome then
      .ok (web.set index (.object (paths.filter fun path =>
        match path.1 with
        | .text path => !isPruned features path
        | _ => true)))
    else .error .unusable

/-- Adds the authorization header to the parameters of an operation cell unless it stands among
them. -/
def authorize (index : Nat) (web : Web) : Except Failure Web :=
  let (web, parameters) := web.getOrPut index "parameters" (.array [])
  match web.array? parameters with
  | some (list, items) =>
    if items.any fun item => Operation.isAuthorization (web.documentAt item) then .ok web
    else
      let (web, header) := web.plant authorization
      .ok (web.set list (.array (items ++ [header])))
  | none => .error .unusable

def updateOperation (template : PathTemplate) (web : Web) (operation : String × Nat) :
    Except Failure Web := do
  let web ← authorize operation.2 web
  let id ← Operation.synthesizeId operation.1 template
  return web.put operation.2 "operationId" (.scalar (.text id))

def operations (web : Web) (item : Link) : List (String × Nat) :=
  match web.object? item with
  | none => []
  | some (_, members) => methods.filterMap fun method => do
    let (index, _) ← web.object? (← Members.get? members method)
    return (method, index)

/-- Prepares the operations of a path. Where that gives the paths a new member, the walk over them
cannot go on. -/
def updatePath (paths : Nat) (web : Web) (key : Scalar) : Except Failure Web :=
  match key, web.object? (.cell paths) with
  | .text name, some (_, members) => do
    let template ← PathTemplate.parse name
    let item := (Members.find? members key).getD (.scalar .null)
    let web ← (web.operations item).foldlM (updateOperation template) web
    match web.object? (.cell paths) with
    | some (_, after) => if after.length == members.length then .ok web else .error .unusable
    | none => .error .unusable
  | _, _ => .error .unusable

def updateInfo (info : Link) (web : Web) : Except Failure Web :=
  match web.object? info with
  | some (index, members) =>
    let description := web.documentAt ((Members.get? members "description").getD (.scalar .null))
    .ok (web.put index "description" (.scalar (.text (noted description))))
  | none => .error .unusable

def update (features : List String) (web : Web) : Except Failure Web :=
  match web.object? web.root with
  | none => .error .unusable
  | some (root, _) => do
    let (web, paths) := web.getOrPut root "paths" (.object [])
    match web.object? paths with
    | none => .error .unusable
    | some (index, _) => do
      let web ← web.prune features index
      let keys := ((web.object? paths).map (·.2)).getD []
      let web ← (keys.map (·.1)).foldlM (updatePath index) web
      let (web, info) := web.getOrPut root "info" (.object [])
      web.updateInfo info

end ClientGen.Web
