import ClientGen.Text.Ranges
import ClientGen.Text.Hex
import ClientGen.Text.Printable.Table

/-!
Quoted forms of text: the form of messages, between single quotes where possible, and the form of
documents and generated code, between double quotes.
-/
namespace ClientGen.Text

def isPrintable (c : Char) : Bool :=
  if c.toNat < 128 then 32 ≤ c.toNat && c.toNat < 127 else !inRanges unprintables c.toNat

def messageChar (quote c : Char) : List Char :=
  if c == quote || c == '\\' then ['\\', c]
  else if c == '\n' then ['\\', 'n']
  else if c == '\r' then ['\\', 'r']
  else if c == '\t' then ['\\', 't']
  else if isPrintable c then [c]
  else if c.toNat < 0x100 then '\\' :: 'x' :: hexDigits 2 c.toNat
  else if c.toNat < 0x10000 then '\\' :: 'u' :: hexDigits 4 c.toNat
  else '\\' :: 'U' :: hexDigits 8 c.toNat

/-- The quote of a text in a message: double quotes only for a text with single and no double
ones. -/
def messageQuote (cs : List Char) : Char :=
  if cs.contains '\'' && !cs.contains '"' then '"' else '\''

def quoteMessage (s : String) : String :=
  let quote := messageQuote s.toList
  .ofList (quote :: s.toList.flatMap (messageChar quote) ++ [quote])

/-- A character within double quotes: quote, backslash and controls are escaped, all else stands
for itself. -/
def escapeChar (c : Char) : List Char :=
  if c == '"' || c == '\\' then ['\\', c]
  else if c == '\n' then ['\\', 'n']
  else if c == '\r' then ['\\', 'r']
  else if c == '\t' then ['\\', 't']
  else if c.toNat == 8 then ['\\', 'b']
  else if c.toNat == 12 then ['\\', 'f']
  else if c.toNat < 32 then '\\' :: 'u' :: hexDigits 4 c.toNat
  else [c]

def escapeChars (cs : List Char) : List Char := cs.flatMap escapeChar

def quote (s : String) : String := .ofList ('"' :: escapeChars s.toList ++ ['"'])

end ClientGen.Text
