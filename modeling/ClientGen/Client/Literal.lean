import ClientGen.Document.Basic
import ClientGen.Text.Quoted

/-!
Literals of generated code: nothing, truth values, whole numbers, texts and tuples of literals.
-/
namespace ClientGen

inductive Literal where
  | nothing
  | truth (value : Bool)
  | whole (value : Int)
  | text (value : String)
  | tuple (items : List Literal)
deriving Repr

namespace Literal

def renderTuple : List String → String
  | [item] => "(" ++ item ++ ",)"
  | items => "(" ++ ", ".intercalate items ++ ")"

mutual

def render : Literal → String
  | nothing => "None"
  | truth value => if value then "True" else "False"
  | whole value => toString value
  | text value => Text.quote value
  | tuple items => renderTuple (renderItems items)

def renderItems : List Literal → List String
  | [] => []
  | item :: rest => item.render :: renderItems rest

end

def ofText? : Option String → Literal
  | some s => text s
  | none => nothing

mutual

/-- The literal of a value. Numbers of double precision and objects have none. -/
def ofDocument? : Document → Option Literal
  | .scalar .null => some nothing
  | .scalar (.bool value) => some (truth value)
  | .scalar (.int value) => some (whole value)
  | .scalar (.text value) => some (text value)
  | .array items => (ofItems? items).map tuple
  | _ => none

def ofItems? : List Document → Option (List Literal)
  | [] => some []
  | item :: rest => do return (← ofDocument? item) :: (← ofItems? rest)

end

end Literal

end ClientGen
