import ClientGen.Document.Edit
import ClientGen.Document.Web

/-!
Changing a place of a web, and with it every place that links to the same collection.
-/
namespace ClientGen.Web

/-- The link under a key or index. -/
def step? (web : Web) : Link → Document → Option Link
  | .cell index, .scalar key => do
    match ← web.cells[index]? with
    | .object members => Members.find? members key
    | .array items => items[← Document.position? items.length key]?
    | .pair first second => [first, second][← Document.position? 2 key]?
    | .set _ => none
  | _, _ => none

def walk? (web : Web) (link : Link) (path : List Document) : Option Link :=
  path.foldlM web.step? link

def setAt? (web : Web) (path : List Document) (value : Document) : Option Web := do
  let .scalar key ← path.getLast? | none
  let .cell index ← web.walk? web.root path.dropLast | none
  let cell ← web.cells[index]?
  let (web, link) := web.plant value
  match cell with
  | .object members => return web.set index (.object (Members.putKey members key link))
  | .array items =>
    return web.set index (.array (items.set (← Document.position? items.length key) link))
  | .pair _ _ | .set _ => none

def eraseAt? (web : Web) (path : List Document) : Option Web := do
  let .scalar key ← path.getLast? | none
  let .cell index ← web.walk? web.root path.dropLast | none
  match ← web.cells[index]? with
  | .object members =>
    let _ ← Members.find? members key
    return web.set index (.object (Members.eraseKey members key))
  | .array items =>
    return web.set index (.array (items.eraseIdx (← Document.position? items.length key)))
  | .pair _ _ | .set _ => none

end ClientGen.Web
