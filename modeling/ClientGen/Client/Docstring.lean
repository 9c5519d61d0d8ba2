import ClientGen.Text.Blank

/-!
Documentation within triple quotes: escapes for text, and blocks of indented lines.
-/
namespace ClientGen.Client

/-- Doubles each backslash and puts one before each quote of three in a row. -/
def escapeDoc : List Char → List Char
  | '\\' :: rest => '\\' :: '\\' :: escapeDoc rest
  | '"' :: '"' :: '"' :: rest => '\\' :: '"' :: '\\' :: '"' :: '\\' :: '"' :: escapeDoc rest
  | c :: rest => c :: escapeDoc rest
  | [] => []

def docText (s : String) : String := .ofList (escapeDoc s.toList)

/-- Lines joined by line feeds, those that are not empty indented. -/
def docBlock (lines : List String) (indent : String) : String :=
  "\n".intercalate (lines.map fun line => if line.isEmpty then "" else indent ++ line)

end ClientGen.Client
