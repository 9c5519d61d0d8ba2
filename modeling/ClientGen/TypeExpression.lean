import ClientGen.Failure
import ClientGen.Text.Identifier
import ClientGen.Text.Lines
import ClientGen.Text.Normal

/-!
Type expressions of generated code: names, subscripts and tuples. Reading one gives the names that
the generated module has to import.
-/
namespace ClientGen

inductive TypeExpression where
  | name (text : String)
  | tuple (items : List TypeExpression)
  | subscript (value index : TypeExpression)
deriving Repr

namespace TypeExpression

inductive Token where
  | name (text : String)
  | opening (square : Bool)
  | closing (square : Bool)
  | comma
  | lineEnd
deriving DecidableEq, Repr

/-- Where a reader of pieces stands with lines that are joined by a backslash. -/
inductive Joining where
  | none
  | backslash
  | joined
deriving DecidableEq, Repr

/-- The state of a reader of pieces: how many brackets are open, the name being read with its last
character first, the width of the blanks at the start of a line and of those before a joined line,
and whether a comment is being skipped. -/
structure Scan where
  level : Nat
  word : List Char
  margin : Option (Nat × Nat)
  comment : Bool
  joining : Joining
deriving DecidableEq, Repr

namespace Scan

def start : Scan := ⟨0, [], some (0, 0), false, .none⟩

/-- The piece for the name read so far. A reserved word is no name. -/
def name? (scan : Scan) : Option (List Token) :=
  if scan.word.isEmpty then some []
  else
    let text := String.ofList scan.word.reverse
    if Text.isIdentifier text && !Text.isKeyword text then some [.name (Text.normalize text)]
    else none

def isNameChar (c : Char) : Bool := c.isAlphanum || c == '_' || 128 ≤ c.toNat

/-- Whether the line starts with blanks, before its first line break if it is a joined one. -/
def isIndented : Option (Nat × Nat) → Bool
  | some (column, joined) => if joined == 0 then column != 0 else true
  | none => false

/-- One character that stands after the blanks at the start of its line. -/
def stepWithin (scan : Scan) (c : Char) : Option (Scan × List Token) :=
  let scan := { scan with margin := none }
  if isNameChar c then some ({ scan with word := c :: scan.word }, [])
  else do
    let names ← scan.name?
    let scan := { scan with word := [] }
    if c == ' ' || c == '\t' || c == '\x0c' then return (scan, names)
    else if c == '\n' then
      if scan.level == 0 then return ({ scan with margin := some (0, 0) }, names ++ [.lineEnd])
      else return (scan, names)
    else if c == '#' then return ({ scan with comment := true }, names)
    else if c == '\\' then return ({ scan with joining := .backslash }, names)
    else if c == ',' then return (scan, names ++ [.comma])
    else if c == '(' then return ({ scan with level := scan.level + 1 }, names ++ [.opening false])
    else if c == '[' then return ({ scan with level := scan.level + 1 }, names ++ [.opening true])
    else if c == ')' then return ({ scan with level := scan.level - 1 }, names ++ [.closing false])
    else if c == ']' then return ({ scan with level := scan.level - 1 }, names ++ [.closing true])
    else none

/-- One character among the blanks at the start of a line. -/
def stepMargin (scan : Scan) (column joined : Nat) (c : Char) : Option (Scan × List Token) :=
  if c == ' ' then some ({ scan with margin := some (column + 1, joined) }, [])
  else if c == '\t' then some ({ scan with margin := some ((column / 8 + 1) * 8, joined) }, [])
  else if c == '\x0c' then some ({ scan with margin := some (0, joined) }, [])
  else if c == '\\' then
    some ({ scan with margin := some (column, if joined == 0 then column else joined),
                      joining := .backslash }, [])
  else if c == '#' then some ({ scan with comment := true }, [])
  else if c == '\n' then some ({ scan with margin := some (0, 0) }, [])
  else if isIndented scan.margin then none
  else scan.stepWithin c

def step (scan : Scan) (c : Char) : Option (Scan × List Token) :=
  match scan.joining with
  | .backslash => if c == '\n' then some ({ scan with joining := .joined }, []) else none
  | _ =>
    let scan := { scan with joining := .none }
    if scan.comment then
      if c == '\n' then
        let scan := { scan with comment := false }
        match scan.margin with
        | some _ => some ({ scan with margin := some (0, 0) }, [])
        | none => scan.stepWithin c
      else some (scan, [])
    else
      match scan.margin with
      | some (column, joined) => scan.stepMargin column joined c
      | none => scan.stepWithin c

/-- The last pieces, when the text may end here. -/
def finish? (scan : Scan) : Option (List Token) :=
  if scan.joining != .none || (!scan.comment && isIndented scan.margin) then none
  else scan.name?

end Scan

def scanFrom? (scan : Scan) : List Char → Option (List Token)
  | [] => scan.finish?
  | c :: rest => do
    let (scan, tokens) ← scan.step c
    return tokens ++ (← scanFrom? scan rest)

def scan? (cs : List Char) : Option (List Token) :=
  if cs.any (·.toNat == 0) then none else scanFrom? .start (Text.unifyLineEnds cs)

/-- The expressions read within one pair of brackets: the value before a square bracket, those
before the last comma, and the one after it. -/
structure Group where
  value : Option TypeExpression
  done : List TypeExpression
  current : Option TypeExpression

namespace Group

def opened (value : Option TypeExpression) : Group := ⟨value, [], none⟩

/-- The expression that a group writes: itself for a single one without a comma, else a tuple. -/
def content? (group : Group) : Option TypeExpression :=
  match group.done, group.current with
  | [], current => current
  | done, current => some (.tuple (done ++ current.toList))

/-- The expression of a bracket and what it encloses. Only round brackets may be empty. -/
def close? (group : Group) (square : Bool) : Option TypeExpression :=
  match group.value, square with
  | some value, true => group.content?.map (.subscript value)
  | none, false => some (group.content?.getD (.tuple []))
  | _, _ => none

end Group

/-- The state of a reader of expressions: the innermost group, those around it, and whether the
line has ended. -/
structure Reading where
  group : Group
  around : List Group
  ended : Bool

namespace Reading

def start : Reading := ⟨.opened none, [], false⟩

/-- Takes an expression, where none stands yet. -/
def take? (reading : Reading) (expression : TypeExpression) : Option Reading :=
  match reading.group.current with
  | none => some { reading with group := { reading.group with current := some expression } }
  | some _ => none

/-- One piece. After the end of the line only further line ends may follow. -/
def step (reading : Reading) (token : Token) : Option Reading :=
  if reading.ended then if token == .lineEnd then some reading else none
  else
    match token with
    | .name text => reading.take? (.name text)
    | .opening false =>
      match reading.group.current with
      | none =>
        some { reading with group := .opened none, around := reading.group :: reading.around }
      | some _ => none
    | .opening true =>
      match reading.group.current with
      | some value =>
        some { reading with
          group := .opened (some value)
          around := { reading.group with current := none } :: reading.around }
      | none => none
    | .closing square =>
      match reading.around with
      | outer :: around => do
        let expression ← reading.group.close? square
        take? { reading with group := outer, around } expression
      | [] => none
    | .comma =>
      match reading.group.current with
      | some expression =>
        let done := reading.group.done ++ [expression]
        some { reading with group := { reading.group with done, current := none } }
      | none => none
    | .lineEnd => some { reading with ended := true }

/-- The expression read when the text ends with all brackets closed. -/
def finish? (reading : Reading) : Option TypeExpression :=
  match reading.around with
  | [] => reading.group.content?
  | _ :: _ => none

end Reading

def parse? (s : String) : Option TypeExpression := do
  let tokens ← scan? s.toList
  (← tokens.foldlM Reading.step .start).finish?

def mergeLevels : List (List String) → List (List String) → List (List String)
  | [], levels => levels
  | levels, [] => levels
  | a :: as, b :: bs => (a ++ b) :: mergeLevels as bs

mutual

def levels : TypeExpression → List (List String)
  | .name text => [[text]]
  | .tuple items => [] :: levelsOf items
  | .subscript value index => [] :: mergeLevels value.levels index.levels

def levelsOf : List TypeExpression → List (List String)
  | [] => []
  | item :: rest => mergeLevels item.levels (levelsOf rest)

end

def builtinNames : List String := ["str", "list", "dict"]

/-- The names of an expression that have to be imported, those nearer to the root first. -/
def importedNames (expression : TypeExpression) : List String :=
  expression.levels.flatten.filter fun name => !builtinNames.contains name

end TypeExpression

def typeNames (s : String) : Except Failure (List String) :=
  match TypeExpression.parse? s with
  | some expression => .ok expression.importedNames
  | none => .error (.invalidTypeName s)

end ClientGen
