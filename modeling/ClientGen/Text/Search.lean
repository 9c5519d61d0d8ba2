/-!
Finding one text within another.
-/
namespace ClientGen.Text

def hasPart (part : List Char) : List Char → Bool
  | [] => part.isEmpty
  | c :: rest => part.isPrefixOf (c :: rest) || hasPart part rest

def contains (s part : String) : Bool := hasPart part.toList s.toList

def dropStart? (start s : String) : Option String :=
  if start.toList.isPrefixOf s.toList then some (.ofList (s.toList.drop start.length)) else none

def startsWith (s start : String) : Bool := start.toList.isPrefixOf s.toList

end ClientGen.Text
