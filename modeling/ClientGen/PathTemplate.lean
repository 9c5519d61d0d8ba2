import ClientGen.Failure

/-!
Path templates: literals and placeholders between slashes. A placeholder is a variable's name in
one pair of braces around a whole segment. Empty segments are dropped, so several texts are the same
template.
-/
namespace ClientGen

inductive Segment where
  | literal (text : String)
  | placeholder (name : String)
deriving DecidableEq, Repr

namespace Segment

/-- The text of a literal or the name of a placeholder's variable. -/
def value : Segment → String
  | literal text => text
  | placeholder name => name

def isVariable : Segment → Bool
  | literal _ => false
  | placeholder _ => true

def render : Segment → String
  | literal text => text
  | placeholder name => "\x7b" ++ name ++ "\x7d"

def isBrace (c : Char) : Bool := c == '\x7b' || c == '\x7d'

def variableName? : List Char → Option (List Char)
  | '\x7b' :: rest =>
    match rest.reverse with
    | '\x7d' :: name => if name.isEmpty || name.any isBrace then none else some name.reverse
    | _ => none
  | _ => none

def ofChars? (cs : List Char) : Option Segment :=
  if cs.any isBrace then (variableName? cs).map fun name => placeholder (.ofList name)
  else some (literal (.ofList cs))

end Segment

abbrev PathTemplate := List Segment

namespace PathTemplate

/-- The texts between the slashes of a path, empty ones left out. -/
def pieces (path : String) : List (List Char) :=
  (path.toList.splitOn '/').filter fun piece => !piece.isEmpty

def parse (path : String) : Except Failure PathTemplate :=
  (pieces path).mapM fun piece =>
    match Segment.ofChars? piece with
    | some segment => .ok segment
    | none => .error (.malformedSegment (.ofList piece) path)

/-- Writes a path template, with a slash before each segment, and one slash for none. -/
def render (template : PathTemplate) : String :=
  "/" ++ "/".intercalate (template.map Segment.render)

def firstLiteral? : PathTemplate → Option String
  | .literal text :: _ => some text
  | _ => none

def variableNames (template : PathTemplate) : List String :=
  template.filterMap fun
    | .placeholder name => some name
    | .literal _ => none

def literals (template : PathTemplate) : List String :=
  template.filterMap fun
    | .literal text => some text
    | .placeholder _ => none

/-- The kind that the first literal names. The path is what messages show. -/
def kind (template : PathTemplate) (path : String) : Except Failure Kind :=
  match template.firstLiteral? with
  | none => .error (.pathWithoutKind path)
  | some literal =>
    match Kind.ofName? literal with
    | some kind => .ok kind
    | none => .error (.unknownKind literal path)

end PathTemplate

end ClientGen
