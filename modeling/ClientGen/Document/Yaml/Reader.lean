import ClientGen.Document.Draft
import ClientGen.Document.Yaml.Merge

/-!
Documents from YAML text. A scalar is read as its tag says, only scalars can be keys, and every use
of a node is the same collection. Collections are filled in the order in which they are met, each
after the one that it stands in, so of several faults the one nearest to the root is told.
-/
namespace ClientGen.Yaml

inductive CollectionKind where
  | sequence
  | pairs
  | mapping
  | set
deriving DecidableEq, Repr

def scalarKinds : List ScalarKind := [.null, .bool, .int, .float, .timestamp, .str, .binary]

def scalarKind? (tag : String) : Option ScalarKind :=
  scalarKinds.find? fun kind => coreTag kind.name == tag

def collectionKinds : List (String × CollectionKind) :=
  [("seq", .sequence), ("omap", .pairs), ("pairs", .pairs), ("map", .mapping), ("set", .set)]

def collectionKind? (tag : String) : Option CollectionKind :=
  (collectionKinds.find? fun kind => coreTag kind.1 == tag).map (·.2)

/-- The text of a node that is taken as a scalar: that of a scalar, or of the default value of a
mapping. A mapping that is its own default has none. -/
def NodeTable.textOf (nodes : NodeTable) : (fuel : Nat) → (index : Nat) → Except Fault String
  | 0, _ => .error .impossible
  | fuel + 1, index =>
    match nodes.node index with
    | .scalar _ text => .ok text
    | .mapping _ pairs =>
      match pairs.find? (nodes.hasKey .default) with
      | some (_, value) => nodes.textOf fuel value
      | none => .error .malformed
    | .sequence _ _ => .error .malformed

/-- The scalar that a node stands for under a kind. A time must be written as a scalar. -/
def NodeTable.scalarOf (nodes : NodeTable) (kind : ScalarKind) (index : Nat) :
    Except Fault Scalar := do
  let text ← nodes.textOf (nodes.size + 1) index
  match kind, nodes.node index with
  | .timestamp, .mapping _ _ => .error .impossible
  | _, _ => Yaml.scalarOf kind text

/-- The state of reading a web from nodes: the nodes, how many merge keys they had at the start,
what the nodes met so far stand for, the cells, and the collections that wait to be filled, each
with its node and its cell. -/
structure Weaver where
  nodes : NodeTable
  merges : Nat
  links : Array (Option Link)
  cells : Array Cell
  waiting : List (CollectionKind × Nat × Nat)

abbrev Weave (α : Type) := StateT Weaver (Except Fault) α

namespace Weaver

def start (nodes : NodeTable) : Weaver :=
  ⟨nodes, nodes.countMerges, .replicate nodes.size none, #[], []⟩

def add (cell : Cell) : Weave Nat :=
  modifyGet fun state => (state.cells.size, { state with cells := state.cells.push cell })

def meet (index : Nat) (link : Link) : Weave Link :=
  modifyGet fun state => (link, { state with links := state.links.setIfInBounds index link })

/-- What a node stands for. A collection that was not met before has to wait. -/
def link (index : Nat) : Weave Link := do
  let state ← get
  match state.links.getD index none with
  | some link => return link
  | none =>
    let tag := (state.nodes.node index).tag
    match scalarKind? tag, collectionKind? tag with
    | some kind, _ => meet index (.scalar (← state.nodes.scalarOf kind index))
    | none, some kind =>
      let cell ← add (.array [])
      modify fun state => { state with waiting := state.waiting ++ [(kind, index, cell)] }
      meet index (.cell cell)
    | none, none => throw .malformed

def key (index : Nat) : Weave Scalar := do
  match ← link index with
  | .scalar key => return key
  | .cell _ => throw .malformed

/-- The members that the pairs of a mapping stand for, once the mapping is settled. -/
def members (index : Nat) : Weave (List (Scalar × Link)) := do
  match (← get).nodes.node index with
  | .mapping _ _ =>
    let nodes ← (← get).nodes.settle ((← get).merges + 1) index
    modify fun state => { state with nodes }
    let members ← (nodes.pairs index).mapM fun pair => return (← key pair.1, ← link pair.2)
    return Members.ofList members
  | _ => throw .malformed

def items (index : Nat) : Weave (List Nat) := do
  match (← get).nodes.node index with
  | .sequence _ items => return items
  | _ => throw .malformed

def pair (index : Nat) : Weave Link := do
  match (← get).nodes.node index with
  | .mapping _ [(key, value)] => return .cell (← add (.pair (← link key) (← link value)))
  | _ => throw .malformed

def collection (kind : CollectionKind) (index : Nat) : Weave Cell := do
  match kind with
  | .sequence => return .array (← (← items index).mapM link)
  | .pairs => return .array (← (← items index).mapM pair)
  | .mapping => return .object (← members index)
  | .set => return .set ((← members index).map (·.1))

/-- Fills the collections that wait. No node waits twice, so their number bounds the rounds. -/
def fill : (fuel : Nat) → Weave Unit
  | 0 => return ()
  | fuel + 1 => do
    match (← get).waiting with
    | [] => return ()
    | (kind, index, cell) :: rest =>
      modify fun state => { state with waiting := rest }
      let content ← collection kind index
      modify fun state => { state with cells := state.cells.setIfInBounds cell content }
      fill fuel

def web (root : Nat) : Weave Web := do
  let root ← link root
  fill ((← get).nodes.size + 1)
  return ⟨(← get).cells, root⟩

end Weaver

/-- Reads the document that a text holds. A text without one holds null. -/
def read (s : String) : Except Fault Draft := do
  let (nodes, root) ← readNodes s.toList
  match root with
  | none => return .tree .null
  | some root =>
    let (web, _) ← (Weaver.web root).run (.start nodes)
    return .ofWeb web

end ClientGen.Yaml
