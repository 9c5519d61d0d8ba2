/-!
Blank characters, and the trimming and splitting of text at them.
-/
namespace ClientGen.Text

/-- Blanks are the white space of Unicode and the four separators U+001C to U+001F. -/
def isBlank (c : Char) : Bool :=
  let n := c.toNat
  (9 ≤ n && n ≤ 13) || (28 ≤ n && n ≤ 32) || n == 0x85 || n == 0xA0 || n == 0x1680 ||
    (0x2000 ≤ n && n ≤ 0x200A) || n == 0x2028 || n == 0x2029 || n == 0x202F || n == 0x205F ||
    n == 0x3000

def trimEnd (cs : List Char) : List Char := (cs.reverse.dropWhile isBlank).reverse

def trimChars (cs : List Char) : List Char := trimEnd (cs.dropWhile isBlank)

def wordsOf (cs : List Char) : List (List Char) :=
  (cs.splitOnP isBlank).filter fun word => !word.isEmpty

def trim (s : String) : String := .ofList (trimChars s.toList)

def oneLine (s : String) : String :=
  .ofList ([' '].intercalate (wordsOf s.toList))

end ClientGen.Text
