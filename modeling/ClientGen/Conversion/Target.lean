/-!
The types that generated clients convert texts to, and how messages name them.
-/
namespace ClientGen.Conversion

/-- A type that values are converted to. A record names its fields, a root type wraps another type,
a choice has named texts for members, and a pattern accepts texts of certain characters. -/
inductive Target where
  | text
  | whole
  | truth
  | record (name : String) (fields : List (String × Target))
  | root (name : String) (content : Target)
  | choice (name : String) (members : List (String × String))
  | pattern (name : String) (accepted : List Char)
  | list (item : Target)
  | map (value : Target)
deriving Repr

namespace Target

def label : Target → String
  | text => "str"
  | whole => "int"
  | truth => "bool"
  | record name _ | root name _ | choice name _ | pattern name _ => name
  | list item => "list[" ++ item.label ++ "]"
  | map value => "dict[str, " ++ value.label ++ "]"

mutual

/-- Whether values of the type can be read from JSON text. Those of a pattern cannot. -/
def isReadable : Target → Bool
  | pattern _ _ => false
  | record _ fields => areReadable fields
  | root _ content => content.isReadable
  | list item => item.isReadable
  | map value => value.isReadable
  | text | whole | truth | choice _ _ => true

def areReadable : List (String × Target) → Bool
  | [] => true
  | (_, target) :: rest => target.isReadable && areReadable rest

end

end Target

end ClientGen.Conversion
