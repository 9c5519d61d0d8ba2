import ClientGen.Document.Basic

/-!
Documents whose collections may stand in several places at once. A web is a table of cells that link
to each other: what changes in a cell changes in every place that links to it. The document of a web
is what reading it from the root shows.
-/
namespace ClientGen

/-- What stands in one place of a web: a scalar, or the collection in a cell. -/
inductive Link where
  | scalar (value : Scalar)
  | cell (index : Nat)
deriving DecidableEq, Repr

inductive Cell where
  | array (items : List Link)
  | pair (first second : Link)
  | object (members : List (Scalar × Link))
  | set (keys : List Scalar)
deriving DecidableEq, Repr

def Cell.links : Cell → List Link
  | array items => items
  | pair first second => [first, second]
  | object members => members.map (·.2)
  | set _ => []

mutual

/-- Whether a way back leads out of a value that stands inside of knots. -/
def Document.isOpen (inside : List Nat) : Document → Bool
  | .array items => isOpenItems inside items
  | .pair first second => isOpen inside first || isOpen inside second
  | .object members => isOpenMembers inside members
  | .knot mark content => isOpen (mark :: inside) content
  | .back mark => !inside.contains mark
  | _ => false

/-- Whether a way back leads out of one of several items. -/
def Document.isOpenItems (inside : List Nat) : List Document → Bool
  | [] => false
  | item :: rest => item.isOpen inside || isOpenItems inside rest

def Document.isOpenMembers (inside : List Nat) : List (Scalar × Document) → Bool
  | [] => false
  | (_, value) :: rest => value.isOpen inside || isOpenMembers inside rest

end

/-- A table of cells and the place where reading starts. -/
structure Web where
  cells : Array Cell
  root : Link
deriving Repr

namespace Web

/-- The collection that a content with a mark is: a knot if the way on from it leads back to it. -/
def tie (mark : Nat) (content : Document) : Document :=
  if content.isOpen [] then .knot mark content else content

/-- What reading from a link shows inside of the cells `around`. The number of cells bounds the
depth. -/
def read (cells : Array Cell) : (fuel : Nat) → (around : List Nat) → Link → Document
  | _, _, .scalar value => .scalar value
  | 0, _, .cell index => .back index
  | fuel + 1, around, .cell index =>
    if around.contains index then .back index
    else
      let inner := read cells fuel (index :: around)
      match cells[index]? with
      | some (.array items) => tie index (.array (items.map inner))
      | some (.pair first second) => tie index (.pair (inner first) (inner second))
      | some (.object members) =>
        tie index (.object (members.map fun member => (member.1, inner member.2)))
      | some (.set keys) => .set keys
      | none => .null

def documentAt (web : Web) (link : Link) : Document := read web.cells (web.cells.size + 1) [] link

def document (web : Web) : Document := web.documentAt web.root

def links (web : Web) : List Link := web.root :: web.cells.toList.flatMap Cell.links

/-- Whether no cell stands in two places. -/
def isTree (web : Web) : Bool :=
  let cells := web.links.filterMap fun
    | .cell index => some index
    | .scalar _ => none
  cells.eraseDups.length == cells.length

def add (web : Web) (cell : Cell) : Web × Link :=
  ({ web with cells := web.cells.push cell }, .cell web.cells.size)

def set (web : Web) (index : Nat) (cell : Cell) : Web :=
  { web with cells := web.cells.setIfInBounds index cell }

mutual

/-- Adds a tree in cells of its own. A way back, which no tree has, becomes null. -/
def plant (web : Web) : Document → Web × Link
  | .scalar value => (web, .scalar value)
  | .array items =>
    let (web, items) := plantItems web items
    web.add (.array items)
  | .pair first second =>
    let (web, first) := plant web first
    let (web, second) := plant web second
    web.add (.pair first second)
  | .object members =>
    let (web, members) := plantMembers web members
    web.add (.object members)
  | .set keys => web.add (.set keys)
  | .knot _ content => plant web content
  | .back _ => (web, .scalar .null)

def plantItems (web : Web) : List Document → Web × List Link
  | [] => (web, [])
  | item :: rest =>
    let (web, item) := plant web item
    let (web, rest) := plantItems web rest
    (web, item :: rest)

def plantMembers (web : Web) : List (Scalar × Document) → Web × List (Scalar × Link)
  | [] => (web, [])
  | (key, value) :: rest =>
    let (web, value) := plant web value
    let (web, rest) := plantMembers web rest
    (web, (key, value) :: rest)

end

def object? (web : Web) : Link → Option (Nat × List (Scalar × Link))
  | .cell index =>
    match web.cells[index]? with
    | some (.object members) => some (index, members)
    | _ => none
  | .scalar _ => none

def array? (web : Web) : Link → Option (Nat × List Link)
  | .cell index =>
    match web.cells[index]? with
    | some (.array items) => some (index, items)
    | _ => none
  | .scalar _ => none

end Web

end ClientGen
