import ClientGen.Document.Basic

/-!
Converted values: as documents, and as the texts of ids.
-/
namespace ClientGen.Conversion

inductive Value where
  | text (value : String)
  | whole (value : Int)
  | truth (value : Bool)
  | record (name : String) (fields : List (String × Value))
  | root (name : String) (content : Value)
  | member (choice name value : String)
  | list (items : List Value)
  | map (entries : List (String × Value))
deriving Repr

namespace Value

mutual

def toDocument : Value → Document
  | text value => .text value
  | whole value => .int value
  | truth value => .bool value
  | record _ fields => .object (toMembers fields)
  | root _ content => content.toDocument
  | member _ _ value => .text value
  | list items => .array (toDocuments items)
  | map entries => .object (toMembers entries)

def toDocuments : List Value → List Document
  | [] => []
  | value :: rest => value.toDocument :: toDocuments rest

def toMembers : List (String × Value) → List (Scalar × Document)
  | [] => []
  | (name, value) :: rest => (.text name, value.toDocument) :: toMembers rest

end

mutual

def quoted : Value → String
  | text value => Text.quoteMessage value
  | whole value => toString value
  | truth value => if value then "True" else "False"
  | record name fields => name ++ "(" ++ ", ".intercalate (quotedFields fields) ++ ")"
  | root name content => name ++ "(root=" ++ content.quoted ++ ")"
  | member choice name value =>
    "<" ++ choice ++ "." ++ name ++ ": " ++ Text.quoteMessage value ++ ">"
  | list items => "[" ++ ", ".intercalate (quotedItems items) ++ "]"
  | map entries => "\x7b" ++ ", ".intercalate (quotedEntries entries) ++ "\x7d"

def quotedItems : List Value → List String
  | [] => []
  | value :: rest => value.quoted :: quotedItems rest

def quotedFields : List (String × Value) → List String
  | [] => []
  | (name, value) :: rest => (name ++ "=" ++ value.quoted) :: quotedFields rest

def quotedEntries : List (String × Value) → List String
  | [] => []
  | (name, value) :: rest =>
    (Text.quoteMessage name ++ ": " ++ value.quoted) :: quotedEntries rest

end

def display : Value → String
  | text value => value
  | member choice name _ => choice ++ "." ++ name
  | record _ fields => " ".intercalate (quotedFields fields)
  | root _ content => "root=" ++ content.quoted
  | value => value.quoted

def unwrapped : Value → Value
  | root _ content => content
  | value => value

def characters (s : String) : List Value := s.toList.map fun c => text (.ofList [c])

def pairText (name : String) (value : Value) : String :=
  "(" ++ Text.quoteMessage name ++ ", " ++ value.quoted ++ ")"

/-- What a walk over a value visits: the items of a list, the characters of a text, the keys of a
map, the fields of a record. A number or truth value has nothing to visit. -/
def elements? : Value → Option (List Value)
  | list items => some items
  | text value | member _ _ value => some (characters value)
  | map entries => some (entries.map fun entry => text entry.1)
  | record _ fields => some (fields.map fun field => text (pairText field.1 field.2))
  | whole _ | truth _ | root _ _ => none

def ids? (value : Value) : Option (List String) :=
  value.unwrapped.elements?.map fun elements =>
    elements.map fun element => element.unwrapped.display

end Value

end ClientGen.Conversion
