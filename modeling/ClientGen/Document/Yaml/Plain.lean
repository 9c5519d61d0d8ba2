import ClientGen.Document.Json.Reader
import ClientGen.Document.Yaml.Cursor
import ClientGen.Text.Case
import ClientGen.Text.Digit

/-!
Scalars: which kind of value the text of one stands for, and the values themselves.
Besides decimal numbers there are binary, octal and hexadecimal integers, and numbers in base sixty
with colons between the digits.
-/
namespace ClientGen.Yaml

open Decimal

inductive ScalarKind where
  | null
  | bool
  | int
  | float
  | timestamp
  | str
  | binary
  | merge
  | default
deriving DecidableEq, Repr

/-! ### Numbers -/

def dropSign : List Char → List Char
  | '+' :: rest => rest
  | '-' :: rest => rest
  | cs => cs

/-- Whether a text is not empty and has only characters of a class. -/
def isRun (p : Char → Bool) (cs : List Char) : Bool := !cs.isEmpty && cs.all p

def isGrouped (c : Char) : Bool := c.isDigit || c == '_'

/-- Whether a text is a digit of a number in base sixty. -/
def isSixtieth : List Char → Bool
  | [a] => a.isDigit
  | [a, b] => '0' ≤ a && a ≤ '5' && b.isDigit
  | _ => false

/-- Whether a text starts with a digit of at least `least` and goes on with digits in groups. -/
def isGroupedFrom (least : Char) : List Char → Bool
  | c :: rest => c.isDigit && least ≤ c && rest.all isGrouped
  | [] => false

/-- Whether a text without sign is an integer in base sixty. -/
def isSexagesimal (least : Char) (cs : List Char) : Bool :=
  match cs.splitOn ':' with
  | first :: second :: rest => isGroupedFrom least first && (second :: rest).all isSixtieth
  | _ => false

def isInt (cs : List Char) : Bool :=
  match dropSign cs with
  | ['0'] => true
  | '0' :: 'b' :: rest => isRun (fun c => c == '0' || c == '1' || c == '_') rest
  | '0' :: 'x' :: rest => isRun (fun c => (Text.hexDigit? c).isSome || c == '_') rest
  | '0' :: rest => isRun (fun c => ('0' ≤ c && c ≤ '7') || c == '_') rest
  | cs => isGroupedFrom '1' cs || isSexagesimal '1' cs

def isExponent : List Char → Bool
  | [] => true
  | e :: sign :: digits =>
    (e == 'e' || e == 'E') && (sign == '+' || sign == '-') && isRun Char.isDigit digits
  | _ => false

def isFloat (cs : List Char) : Bool :=
  let unsigned := dropSign cs
  let whole := unsigned.takeWhile fun c => isGrouped c || c == ':'
  let special := [".inf", ".Inf", ".INF"].any fun name => unsigned == name.toList
  special || ([".nan", ".NaN", ".NAN"].any fun name => cs == name.toList) ||
    match unsigned.drop whole.length with
    | '.' :: rest =>
      let tail := rest.dropWhile isGrouped
      if whole.isEmpty then
        unsigned.length == cs.length && isGroupedFrom '0' (rest.take 1) && isExponent tail
      else if whole.contains ':' then isSexagesimal '0' whole && tail.isEmpty
      else isGroupedFrom '0' whole && isExponent tail
    | _ => false

def baseDigit? (base : Nat) (c : Char) : Option Nat :=
  ((Text.hexDigit? c).or (Text.digitValue? c)).filter (· < base)

/-- The integer that a text in a base writes: digits, the mark of the base and a sign before them,
and blanks around. -/
def ofBase? (base : Nat) (mark : Char) (cs : List Char) : Option Int :=
  let (negative, cs) := Text.splitSign (Text.trimNumber cs)
  let digits := match cs with
    | '0' :: c :: rest => if c.toLower == mark then rest else cs
    | _ => cs
  if digits.isEmpty then none
  else (digits.mapM (baseDigit? base)).map (Text.signedDigits negative base)

def ungrouped (cs : List Char) : List Char := cs.filter (· != '_')

/-- The number that a text without sign and underscores writes. -/
def natOf? : List Char → Option Int
  | [] => none
  | '0' :: 'b' :: rest => ofBase? 2 'b' rest
  | '0' :: 'x' :: rest => ofBase? 16 'x' rest
  | '0' :: rest => ofBase? 8 'o' ('0' :: rest)
  | cs =>
    if cs.contains ':' then do
      let digits ← (cs.splitOn ':').mapM fun digit => Text.integer? (.ofList digit)
      return digits.foldl (fun number digit => number * 60 + digit) 0
    else Text.integer? (.ofList cs)

def intOf? (cs : List Char) : Option Int :=
  match ungrouped cs with
  | '-' :: rest => (natOf? rest).map (- ·)
  | cs => natOf? (dropSign cs)

/-- The number that whole digits, a fraction and an exponent write. -/
def decimalOf? (cs : List Char) : Option Binary64 :=
  let (whole, rest) := Json.spanDigits cs
  let (fraction, rest) := match rest with
    | '.' :: rest => Json.spanDigits rest
    | _ => ([], rest)
  if whole.isEmpty && fraction.isEmpty then none
  else
    match Json.readExponent rest with
    | (exponent, []) =>
      some (.ofDecimal false (Json.digitsValue (whole ++ fraction))
        (exponent.getD 0 - fraction.length))
    | _ => none

/-- The sum of numbers in base sixty, the last digit first, rounded at each step. There is none when
the worth of a digit is out of range. -/
def sumSixtieths? (worth : Nat) (sum : Binary64) : List Binary64 → Option Binary64
  | [] => some sum
  | digit :: rest =>
    match Binary64.ofInt worth with
    | .finite negative mantissa exponent =>
      sumSixtieths? (worth * 60) (sum.add (digit.mul (.finite negative mantissa exponent))) rest
    | _ => none

/-- The number that a text in small letters writes: decimal digits of any script or a word, a sign
before them and blanks around. -/
def numberOf? (cs : List Char) : Option Binary64 :=
  let (negative, cs) := Text.splitSign (Text.trimNumber cs)
  let number? :=
    if cs == "inf".toList || cs == "infinity".toList then some (.infinity false)
    else if cs == "nan".toList then some .notANumber
    else decimalOf? (cs.map Text.plainDigit)
  number?.map fun number => if negative then number.opposite else number

/-- The number with a point that a text in small letters, without sign and underscores, writes. -/
def unsignedFloatOf? (cs : List Char) : Option Binary64 :=
  if cs == ".inf".toList then some (.infinity false)
  else if cs == ".nan".toList then some .notANumber
  else if cs.contains ':' then do
    let digits ← (cs.splitOn ':').mapM numberOf?
    sumSixtieths? 1 (.finite false 0 leastExponent) digits.reverse
  else numberOf? cs

def floatOf? (cs : List Char) : Option Binary64 :=
  match (ungrouped cs).map Char.toLower with
  | '-' :: rest => (unsignedFloatOf? rest).map Binary64.opposite
  | cs => unsignedFloatOf? (dropSign cs)

/-! ### Dates and times -/

def readDigits? (least most : Nat) (cs : List Char) : Option (Nat × List Char) :=
  let digits := (cs.take most).takeWhile Char.isDigit
  if digits.length < least then none
  else some (Json.digitsValue digits, cs.drop digits.length)

def readChar? (expected : Char) : List Char → Option (List Char)
  | c :: rest => if c == expected then some rest else none
  | [] => none

/-- The offset in minutes that ends a time, if there is one. -/
def readOffset? (cs : List Char) : Option (Option Int) :=
  if cs.isEmpty then some none
  else
    match cs.dropWhile fun c => c == ' ' || c == '\t' with
    | ['Z'] => some (some 0)
    | sign :: rest => do
      if sign != '+' && sign != '-' then none
      else
        let (hours, rest) ← readDigits? 1 2 rest
        let minutes ← match rest with
          | [] => some 0
          | ':' :: rest => do
            let (minutes, rest) ← readDigits? 2 2 rest
            if rest.isEmpty then some minutes else none
          | _ => none
        let offset : Int := hours * 60 + minutes
        return some (if sign == '-' then -offset else offset)
    | [] => none

/-- The microseconds that the digits of a fraction write, those after the sixth left out. -/
def microseconds (digits : List Char) : Nat :=
  let digits := digits.take 6
  Json.digitsValue (digits ++ List.replicate (6 - digits.length) '0')

def readTime? (date : Date) (cs : List Char) : Option Moment := do
  let rest ← match cs with
    | 'T' :: rest => some rest
    | 't' :: rest => some rest
    | _ =>
      let rest := cs.dropWhile fun c => c == ' ' || c == '\t'
      if rest.length == cs.length then none else some rest
  let (hour, rest) ← readDigits? 1 2 rest
  let (minute, rest) ← readDigits? 2 2 (← readChar? ':' rest)
  let (second, rest) ← readDigits? 2 2 (← readChar? ':' rest)
  let (fraction, rest) := match rest with
    | '.' :: rest => Json.spanDigits rest
    | _ => ([], rest)
  return ⟨date, hour, minute, second, microseconds fraction, ← readOffset? rest⟩

/-- The date or time that a text writes. Only a date with two digits for month and day is
`strict`. -/
def readTimestamp? (cs : List Char) : Option (Scalar × Bool) := do
  let (year, rest) ← readDigits? 4 4 cs
  let (month, rest) ← readDigits? 1 2 (← readChar? '-' rest)
  let (day, rest) ← readDigits? 1 2 (← readChar? '-' rest)
  let date : Date := ⟨year, month, day⟩
  if rest.isEmpty then return (.date date, cs.length == 10)
  else return (.moment (← readTime? date rest), true)

def exists? : Scalar → Bool
  | .date date => date.isValid
  | .moment moment => moment.isValid
  | _ => true

/-! ### Bytes -/

def base64Digit? (c : Char) : Option Nat :=
  if c.isUpper then some (c.toNat - 65)
  else if c.isLower then some (c.toNat - 71)
  else if c.isDigit then some (c.toNat + 4)
  else if c == '+' then some 62
  else if c == '/' then some 63
  else none

/-- The bytes that digits of base sixty-four write, given the position in a group of four, the bits
left over and the padding so far. Other characters are skipped. -/
def decodeBase64? (position left pads : Nat) : List Char → Option (List Nat)
  | [] => if position == 0 then some [] else none
  | '=' :: rest =>
    if 2 ≤ position && 4 ≤ position + pads + 1 then some []
    else decodeBase64? position left (if 2 ≤ position then pads + 1 else pads) rest
  | c :: rest =>
    match base64Digit? c with
    | none => decodeBase64? position left pads rest
    | some digit =>
      match position with
      | 0 => decodeBase64? 1 digit 0 rest
      | 1 => (decodeBase64? 2 (digit % 16) 0 rest).map ((left * 4 + digit / 16) :: ·)
      | 2 => (decodeBase64? 3 (digit % 4) 0 rest).map ((left * 16 + digit / 4) :: ·)
      | _ => (decodeBase64? 0 0 0 rest).map ((left * 64 + digit) :: ·)

/-! ### Kinds -/

def truthWords : List (String × Bool) := [
  ("yes", true), ("no", false), ("true", true), ("false", false), ("on", true), ("off", false)]

/-- Whether a text is a word in small letters, with a capital, or in capitals. -/
def isWord (word : String) (s : String) : Bool :=
  s == word || s == Text.capitalize word || s == Text.upper word

def beforeLineEnd (cs : List Char) : List Char :=
  if cs.getLast? == some '\n' then cs.dropLast else cs

/-- The kind of value that a text without a line break at its end stands for. -/
def kindOfLine (s : String) : ScalarKind :=
  let cs := s.toList
  if truthWords.any fun word => isWord word.1 s then .bool
  else if isFloat cs then .float
  else if isInt cs then .int
  else if s == "<<" then .merge
  else if s == "" || s == "~" || isWord "null" s then .null
  else if (readTimestamp? cs).any (·.2) then .timestamp
  else if s == "=" then .default
  else .str

/-- The kind of value that a text stands for when its tag leaves that open. One line break at the
end makes no difference, unless the text is nothing else. -/
def kindOf (s : String) : ScalarKind :=
  if s == "\n" then .str else kindOfLine (.ofList (beforeLineEnd s.toList))

def scalarOf (kind : ScalarKind) (s : String) : Except Fault Scalar :=
  let orImpossible (value : Option Scalar) : Except Fault Scalar :=
    match value with
    | some value => .ok value
    | none => .error .impossible
  match kind with
  | .null => .ok .null
  | .bool => orImpossible ((truthWords.lookup (Text.lower s)).map .bool)
  | .int => orImpossible ((intOf? s.toList).map .int)
  | .float => orImpossible ((floatOf? s.toList).map .real)
  | .timestamp =>
    match readTimestamp? (beforeLineEnd s.toList) with
    | some (value, _) => if exists? value then .ok value else .error .impossible
    | none => .error .impossible
  | .str => .ok (.text s)
  | .binary =>
    if s.toList.all fun c => c.toNat < 128 then
      match decodeBase64? 0 0 0 s.toList with
      | some bytes => .ok (.bytes bytes)
      | none => .error .malformed
    else .error .malformed
  | .merge | .default => .error .malformed

end ClientGen.Yaml
