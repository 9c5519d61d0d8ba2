import ClientGen.Document.Yaml.Node

/-!
Merge keys: a mapping takes in the pairs of other mappings, before its own. These pairs are the ones
of the other mappings themselves, not copies.
-/
namespace ClientGen.Yaml.NodeTable

def node (nodes : NodeTable) (index : Nat) : Node := nodes.getD index .empty

def pairs (nodes : NodeTable) (index : Nat) : List (Nat × Nat) :=
  match nodes.node index with
  | .mapping _ pairs => pairs
  | _ => []

def setPairs (nodes : NodeTable) (index : Nat) (pairs : List (Nat × Nat)) : NodeTable :=
  nodes.setIfInBounds index (.mapping (nodes.node index).tag pairs)

def setTag (nodes : NodeTable) (tag : String) (index : Nat) : NodeTable :=
  nodes.setIfInBounds index
    (match nodes.node index with
      | .scalar _ text => .scalar tag text
      | .sequence _ items => .sequence tag items
      | .mapping _ pairs => .mapping tag pairs)

def hasKey (nodes : NodeTable) (kind : ScalarKind) (pair : Nat × Nat) : Bool :=
  (nodes.node pair.1).tag == coreTag kind.name

/-- The pairs that the value of a merge key brings in, each mapping settled first: those of one
mapping, or of several mappings, where the earlier ones win. -/
def mergedPairs (settle : Nat → NodeTable → Except Fault NodeTable) (value : Nat)
    (nodes : NodeTable) : Except Fault (List (Nat × Nat) × NodeTable) :=
  let add (merged : List (Nat × Nat) × NodeTable) (index : Nat) :
      Except Fault (List (Nat × Nat) × NodeTable) :=
    match merged.2.node index with
    | .mapping _ _ => do
      let nodes ← settle index merged.2
      return (nodes.pairs index ++ merged.1, nodes)
    | _ => .error .malformed
  match nodes.node value with
  | .sequence _ items => items.foldlM add ([], nodes)
  | _ => add ([], nodes) value

/-- Settles a mapping: each merge key gives way to the pairs that it brings in, and the sign of a
default value becomes a text. Every round leaves one merge key less, so their number bounds the
depth. -/
def settle : (fuel : Nat) → (index : Nat) → NodeTable → Except Fault NodeTable
  | 0, _, _ => .error .malformed
  | fuel + 1, index, nodes =>
    let pairs := nodes.pairs index
    let own := pairs.takeWhile fun pair => !nodes.hasKey .merge pair
    match pairs.drop own.length with
    | [] =>
      let signs := (pairs.filter (nodes.hasKey .default)).map (·.1)
      .ok (signs.foldl (setTag · (coreTag "str")) nodes)
    | (_, value) :: rest => do
      let unmerged := nodes.setPairs index (own ++ rest)
      let (merged, nodes) ← mergedPairs (settle fuel) value unmerged
      let nodes ← settle fuel index nodes
      return nodes.setPairs index (merged ++ nodes.pairs index)

def countMerges (nodes : NodeTable) : Nat :=
  (nodes.toList.flatMap fun
    | .mapping _ pairs => pairs.filter (nodes.hasKey .merge)
    | _ => []).length

end ClientGen.Yaml.NodeTable
