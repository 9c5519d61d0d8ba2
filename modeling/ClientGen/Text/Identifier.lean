import ClientGen.Text.Ranges
import ClientGen.Text.Identifier.Table

/-!
Identifiers of generated code: the letters of every script and the underscore, then also digits
and marks.
-/
namespace ClientGen.Text

def startsIdentifier (c : Char) : Bool :=
  if c.toNat < 128 then c.isAlpha || c == '_' else inRanges identifierStarts c.toNat

def continuesIdentifier (c : Char) : Bool :=
  if c.toNat < 128 then c.isAlphanum || c == '_' else inRanges identifierParts c.toNat

def isIdentifierChars : List Char → Bool
  | [] => false
  | c :: rest => startsIdentifier c && rest.all continuesIdentifier

def isIdentifier (s : String) : Bool := isIdentifierChars s.toList

def keywords : List String := [
  "False", "None", "True", "and", "as", "assert", "async", "await", "break", "class", "continue",
  "def", "del", "elif", "else", "except", "finally", "for", "from", "global", "if", "import", "in",
  "is", "lambda", "nonlocal", "not", "or", "pass", "raise", "return", "try", "while", "with",
  "yield"]

def isKeyword (s : String) : Bool := keywords.contains s

end ClientGen.Text
