import ClientGen.Document.Yaml.Lexer
import ClientGen.Document.Yaml.Plain

/-!
The nodes of a YAML text: scalars, sequences and mappings with their tags. They stand in a table,
and an alias is one more use of the node that has its anchor, which may be a collection around it.
-/
namespace ClientGen.Yaml

/-- A node, which names others by their places in the table. -/
inductive Node where
  | scalar (tag text : String)
  | sequence (tag : String) (items : List Nat)
  | mapping (tag : String) (pairs : List (Nat × Nat))
deriving DecidableEq, Repr

def Node.tag : Node → String
  | scalar tag _ | sequence tag _ | mapping tag _ => tag

abbrev NodeTable := Array Node

def coreTag (name : String) : String := "tag:yaml.org,2002:" ++ name

def ScalarKind.name : ScalarKind → String
  | null => "null"
  | bool => "bool"
  | int => "int"
  | float => "float"
  | timestamp => "timestamp"
  | str => "str"
  | binary => "binary"
  | merge => "merge"
  | default => "value"

def Node.empty : Node := .scalar (coreTag "null") ""

/-- The state of a reader of nodes: the tokens left, what the handles of tags stand for, the nodes
with anchors, and the nodes so far. -/
structure NodeReader where
  tokens : List Token
  handles : List (String × String)
  anchors : List (String × Nat)
  nodes : NodeTable

abbrev ReadNodes (α : Type) := StateT NodeReader (Except Fault) α

namespace NodeReader

def defaultHandles : List (String × String) := [("!", "!"), ("!!", coreTag "")]

def peek : ReadNodes Token := do
  return ((← get).tokens.head?).getD .streamEnd

def skip : ReadNodes Unit := modify fun state => { state with tokens := state.tokens.drop 1 }

def fail {α : Type} : ReadNodes α := do
  match ← peek with
  | .broken fault => throw fault
  | _ => throw .malformed

def expect (token : Token) : ReadNodes Unit := do
  if (← peek) == token then skip else fail

def isNext (tokens : List Token) : ReadNodes Bool := do
  return tokens.contains (← peek)

/-- Adds a node to the table, under an anchor if it has one. -/
def add (anchor : Option String) (node : Node) : ReadNodes Nat :=
  modifyGet fun state =>
    let index := state.nodes.size
    (index, { state with
      nodes := state.nodes.push node
      anchors := (anchor.map fun name => (name, index)).toList ++ state.anchors })

def addEmpty : ReadNodes Nat := add none .empty

/-- Adds a collection, whose parts are read once it stands in the table. -/
def addAround {α : Type} (anchor : Option String) (node : List α → Node)
    (parts : ReadNodes (List α)) : ReadNodes Nat := do
  let index ← add anchor (node [])
  let parts ← parts
  modify fun state => { state with nodes := state.nodes.setIfInBounds index (node parts) }
  return index

def anchor? : ReadNodes (Option String) := do
  match ← peek with
  | .anchor name => skip; return some name
  | _ => return none

def tag? : ReadNodes (Option String) := do
  match ← peek with
  | .tag none suffix => skip; return some suffix
  | .tag (some handle) suffix =>
    match (← get).handles.lookup handle with
    | some start => skip; return some (start ++ suffix)
    | none => fail
  | _ => return none

/-- Reads an anchor and a tag in either order. No anchor may be given twice. -/
def properties : ReadNodes (Option String × Option String) := do
  let anchor ← anchor?
  let tag ← tag?
  let anchor ← match anchor with
    | some name => pure (some name)
    | none => anchor?
  match anchor with
  | some name => if ((← get).anchors.lookup name).isSome then fail else return (anchor, tag)
  | none => return (anchor, tag)

/-- The tag of a scalar: the kind of its text when it is plain without a tag or has the tag that
asks for it. -/
def scalarTag (tag : Option String) (text : String) (plain : Bool) : String :=
  match tag with
  | none => coreTag (if plain then (kindOf text).name else "str")
  | some "!" => coreTag (kindOf text).name
  | some tag => tag

def collectionTag (tag : Option String) (default : String) : String :=
  match tag with
  | none | some "!" => coreTag default
  | some tag => tag

/-- The tokens before which an item of an indented sequence is left out. -/
def itemEnds : List Token := [.blockEntry, .blockEnd]

/-- The tokens before which an item of a sequence without indentation is left out. -/
def looseItemEnds : List Token := [.blockEntry, .key, .value, .blockEnd]

/-- The tokens before which a key or value of an indented mapping is left out. -/
def pairEnds : List Token := [.key, .value, .blockEnd]

mutual

/-- Reads a node, which outside of flow collections may be an indented collection, and in a mapping
a sequence without indentation. -/
def node : (fuel : Nat) → (block loose : Bool) → ReadNodes Nat
  | 0, _, _ => fail
  | fuel + 1, block, loose => do
    match ← peek with
    | .alias name =>
      match (← get).anchors.lookup name with
      | some node => skip; return node
      | none => fail
    | _ =>
      let (anchor, tag) ← properties
      let token ← peek
      let sequence := addAround anchor (Node.sequence (collectionTag tag "seq"))
      let mapping := addAround anchor (Node.mapping (collectionTag tag "map"))
      if token == .blockEntry && loose then sequence (looseItems fuel)
      else
        match token with
        | .scalar text plain =>
          skip
          add anchor (.scalar (scalarTag tag text plain) text)
        | .openSequence =>
          skip
          sequence (flowItems fuel true)
        | .openMapping =>
          skip
          mapping (flowPairs fuel true)
        | .blockSequence =>
          if block then
            skip
            sequence (blockItems fuel)
          else fail
        | .blockMapping =>
          if block then
            skip
            mapping (blockPairs fuel)
          else fail
        | _ =>
          if anchor.isSome || tag.isSome then
            add anchor (.scalar (collectionTag tag "null") "")
          else fail

/-- Reads a node, or nothing before one of several tokens. -/
def nodeUnless : (fuel : Nat) → (ends : List Token) → (block loose : Bool) → ReadNodes Nat
  | 0, _, _, _ => fail
  | fuel + 1, ends, block, loose => do
    if ← isNext ends then addEmpty else node fuel block loose

def blockItems : (fuel : Nat) → ReadNodes (List Nat)
  | 0 => fail
  | fuel + 1 => do
    match ← peek with
    | .blockEntry =>
      skip
      let item ← nodeUnless fuel itemEnds true false
      return item :: (← blockItems fuel)
    | .blockEnd => skip; return []
    | _ => fail

def looseItems : (fuel : Nat) → ReadNodes (List Nat)
  | 0 => fail
  | fuel + 1 => do
    match ← peek with
    | .blockEntry =>
      skip
      let item ← nodeUnless fuel looseItemEnds true false
      return item :: (← looseItems fuel)
    | _ => return []

def valueUnless : (fuel : Nat) → (ends : List Token) → (block : Bool) → ReadNodes Nat
  | 0, _, _ => fail
  | fuel + 1, ends, block => do
    match ← peek with
    | .value =>
      skip
      nodeUnless fuel ends block block
    | _ => addEmpty

def blockPairs : (fuel : Nat) → ReadNodes (List (Nat × Nat))
  | 0 => fail
  | fuel + 1 => do
    match ← peek with
    | .key =>
      skip
      let key ← nodeUnless fuel pairEnds true true
      let value ← valueUnless fuel pairEnds true
      return (key, value) :: (← blockPairs fuel)
    | .blockEnd => skip; return []
    | _ => fail

/-- Reads the items of a flow sequence. A key among them starts a mapping of one pair. -/
def flowItems : (fuel : Nat) → (first : Bool) → ReadNodes (List Nat)
  | 0, _ => fail
  | fuel + 1, first => do
    if ← isNext [.closeSequence] then skip; return []
    else
      if !first then expect .flowEntry
      match ← peek with
      | .closeSequence => skip; return []
      | .key =>
        skip
        let key ← nodeUnless fuel [.value, .flowEntry, .closeSequence] false false
        let value ← valueUnless fuel [.flowEntry, .closeSequence] false
        let pair ← add none (.mapping (coreTag "map") [(key, value)])
        return pair :: (← flowItems fuel false)
      | _ =>
        let item ← node fuel false false
        return item :: (← flowItems fuel false)

def flowPairs : (fuel : Nat) → (first : Bool) → ReadNodes (List (Nat × Nat))
  | 0, _ => fail
  | fuel + 1, first => do
    if ← isNext [.closeMapping] then skip; return []
    else
      if !first then expect .flowEntry
      match ← peek with
      | .closeMapping => skip; return []
      | .key =>
        skip
        let key ← nodeUnless fuel [.value, .flowEntry, .closeMapping] false false
        let value ← valueUnless fuel [.flowEntry, .closeMapping] false
        return (key, value) :: (← flowPairs fuel false)
      | _ =>
        let key ← node fuel false false
        return (key, ← addEmpty) :: (← flowPairs fuel false)

end

def directives : (fuel : Nat) → (versioned : Bool) → ReadNodes Unit
  | 0, _ => fail
  | fuel + 1, versioned => do
    match ← peek with
    | .version major =>
      if versioned || major != 1 then fail
      else
        skip
        directives fuel true
    | .tagHandle handle start =>
      if ((← get).handles.lookup handle).isSome then fail
      else
        skip
        modify fun state => { state with handles := (handle, start) :: state.handles }
        directives fuel versioned
    | .reserved =>
      skip
      directives fuel versioned
    | _ => return ()

def skipEnds : (fuel : Nat) → ReadNodes Unit
  | 0 => return ()
  | fuel + 1 => do
    if ← isNext [.documentEnd] then
      skip
      skipEnds fuel

/-- Whether the next token starts a document that says so. -/
def isExplicit : ReadNodes Bool := do
  match ← peek with
  | .version _ | .tagHandle _ _ | .reserved | .documentStart => return true
  | _ => return false

def document (fuel : Nat) : ReadNodes (Option Nat) := do
  if ← isNext [.streamEnd] then return none
  else
    let root ←
      if ← isExplicit then do
        directives fuel false
        modify fun state => { state with handles := state.handles ++ defaultHandles }
        expect .documentStart
        if (← isExplicit) || (← isNext [.documentEnd, .streamEnd]) then addEmpty
        else node fuel true false
      else do
        modify fun state => { state with handles := defaultHandles }
        node fuel true false
    skipEnds fuel
    expect .streamEnd
    return some root

end NodeReader

/-- The nodes of the document that a text holds and the place of its root, which a text without a
document does not have. -/
def readNodes (cs : List Char) : Except Fault (NodeTable × Option Nat) := do
  let tokens := tokens cs
  let (root, reader) ← (NodeReader.document (4 * tokens.length + 8)).run ⟨tokens, [], [], #[]⟩
  return (reader.nodes, root)

end ClientGen.Yaml
