import ClientGen.Operation.Selector
import ClientGen.Text.Identifier

/-!
Names in generated code: arguments from parameter names, methods and handlers from selectors.
-/
namespace ClientGen.Client

def isCapital (c : Char) : Bool := 'A' ≤ c && c ≤ 'Z'

def isSmall (c : Char) : Bool := 'a' ≤ c && c ≤ 'z'

/-- Whether a word starts at `c`: a capital after a small letter or digit, or the last capital of
several before a small letter. -/
def startsWord (before : Option Char) (c : Char) (next : Option Char) : Bool :=
  match before with
  | none => false
  | some b =>
    isCapital c && (isSmall b || b.isDigit || (isCapital b && next.any isSmall))

def separateWords (before : Option Char) : List Char → List Char
  | [] => []
  | c :: rest =>
    let written := c :: separateWords (some c) rest
    if startsWord before c rest.head? then '_' :: written else written

def isArgumentChar (c : Char) : Bool := isSmall c || c.isDigit || c == '_'

def collapseUnderscores : List Char → List Char
  | '_' :: '_' :: rest => collapseUnderscores ('_' :: rest)
  | c :: rest => c :: collapseUnderscores rest
  | [] => []

def trimUnderscores (cs : List Char) : List Char :=
  ((cs.dropWhile (· == '_')).reverse.dropWhile (· == '_')).reverse

/-- The words of a parameter name in small letters, joined by single underscores. -/
def argumentWords (name : String) : List Char :=
  let words := Text.lower (.ofList (separateWords none name.toList))
  trimUnderscores (collapseUnderscores
    (words.toList.map fun c => if isArgumentChar c then c else '_'))

def ownArguments : List String := ["self", "body"]

/-- The argument name for a parameter: its words, made a name that is neither reserved nor taken by
the signature itself. -/
def argumentName (name : String) : String :=
  let words := argumentWords name
  let words := if words.isEmpty then "param".toList else words
  let words := if words.head?.any Char.isDigit then '_' :: words else words
  let result := String.ofList words
  if Text.isKeyword result || ownArguments.contains result then result ++ "_" else result

/-- A selector as part of a name: what cannot stand in a name becomes an underscore. -/
def selectorPart (selector : String) : String :=
  .ofList (selector.toList.map fun c => if c.isAlphanum || c == '_' then c else '_')

def methodName (operation : Operation) : String :=
  operation.method.name ++ "_" ++ selectorPart operation.selector

def handlerName (operation : Operation) : String :=
  "_" ++ operation.method.name ++ "_" ++ selectorPart operation.selector

/-- The argument names for an operation's parameters, which must differ. -/
def argumentNames (operation : Operation) : Except Failure (List String) :=
  let names := operation.parameters.map fun parameter => argumentName parameter.name
  match repeated names with
  | [] => .ok names
  | duplicates => .error (.duplicateArguments operation.method operation.path duplicates)

end ClientGen.Client
