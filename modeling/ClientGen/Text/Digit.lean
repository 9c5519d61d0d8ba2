import ClientGen.Text.Ranges
import ClientGen.Text.Digit.Table
import ClientGen.Text.Blank
import ClientGen.Text.Hex

/-!
Decimal digits of every script, and reading an integer from text.
-/
namespace ClientGen.Text

def digitValue? (c : Char) : Option Nat :=
  if c.toNat < 128 then
    if c.isDigit then some (c.toNat - 48) else none
  else
    (decimalZeros.find? fun start => start ≤ c.toNat && c.toNat ≤ start + 9).map (c.toNat - ·)

/-- A decimal digit of any script as one of `0` to `9`, another character as it is. -/
def plainDigit (c : Char) : Char :=
  match digitValue? c with
  | some value => .ofNat (48 + value)
  | none => c

/-- Digits are the decimal digits and loose ones such as superscripts. -/
def isDigit (c : Char) : Bool :=
  (digitValue? c).isSome || inRanges looseDigits c.toNat

def isDigits (s : String) : Bool := !s.isEmpty && s.toList.all isDigit

/-- The values of digits between which single underscores may stand. -/
def groupedDigits? : List Char → Option (List Nat)
  | [] => none
  | [c] => (digitValue? c).map ([·])
  | c :: '_' :: rest => do return (← digitValue? c) :: (← groupedDigits? rest)
  | c :: rest => do return (← digitValue? c) :: (← groupedDigits? rest)

/-- Blanks that may stand around a number: all but the separators U+001C to U+001F. -/
def isNumberBlank (c : Char) : Bool := isBlank c && !(28 ≤ c.toNat && c.toNat ≤ 31)

def trimNumber (cs : List Char) : List Char :=
  ((cs.dropWhile isNumberBlank).reverse.dropWhile isNumberBlank).reverse

/-- Whether a number starts with a minus, and its characters after the sign. -/
def splitSign : List Char → Bool × List Char
  | '-' :: rest => (true, rest)
  | '+' :: rest => (false, rest)
  | cs => (false, cs)

def signedDigits (negative : Bool) (base : Nat) (digits : List Nat) : Int :=
  if negative then -(ofDigits base digits : Int) else ofDigits base digits

/-- The integer that a text writes: decimal digits of any script with single underscores between
them, a sign before them and blanks around. -/
def integer? (s : String) : Option Int :=
  let (negative, digits) := splitSign (trimNumber s.toList)
  (groupedDigits? digits).map (signedDigits negative 10)

end ClientGen.Text
