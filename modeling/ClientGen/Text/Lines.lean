/-!
Line ends.
-/
namespace ClientGen.Text

/-- Every line end, of a carriage return, a line feed or both, as one line feed. -/
def unifyLineEnds : List Char → List Char
  | '\r' :: '\n' :: rest => '\n' :: unifyLineEnds rest
  | '\r' :: rest => '\n' :: unifyLineEnds rest
  | c :: rest => c :: unifyLineEnds rest
  | [] => []

def unified (s : String) : String := .ofList (unifyLineEnds s.toList)

end ClientGen.Text
