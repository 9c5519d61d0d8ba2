import ClientGen.Document.Basic
import ClientGen.Text.Hex

/-!
Reading documents from JSON text. A fault says what was expected and where: the number of
characters that were left. Besides the grammar of JSON the words `NaN`, `Infinity` and `-Infinity`
are numbers.
-/
namespace ClientGen.Json

open Decimal

inductive Problem where
  | byteOrderMark
  | value
  | extraData
  | propertyName
  | colon
  | comma
  | unterminated
  | control
  | escape
  | hexEscape
deriving DecidableEq, Repr

/-- A problem and the number of characters left at the place where it shows. -/
structure Fault where
  problem : Problem
  left : Nat
deriving DecidableEq, Repr

def isSpace (c : Char) : Bool := c == ' ' || c == '\t' || c == '\n' || c == '\r'

def skipSpace (cs : List Char) : List Char := cs.dropWhile isSpace

def fourHex? : List Char → Option (Nat × List Char)
  | a :: b :: c :: d :: rest => do
    let digits ← [a, b, c, d].mapM Text.hexDigit?
    return (Text.ofDigits 16 digits, rest)
  | _ => none

def simpleEscape? : Char → Option Char
  | '"' => some '"'
  | '\\' => some '\\'
  | '/' => some '/'
  | 'b' => some (Char.ofNat 8)
  | 'f' => some (Char.ofNat 12)
  | 'n' => some '\n'
  | 'r' => some '\r'
  | 't' => some '\t'
  | _ => none

/-- Whether a number is half of a surrogate pair, which no text holds. -/
def isSurrogate (code : Nat) : Bool := 0xD800 ≤ code && code ≤ 0xDFFF

/-- The number of the character that a numeric escape writes, which may be a surrogate pair. Four
digits must be followed by a further character. -/
def escapeCode (rest : List Char) : Except Fault (Nat × List Char) := do
  let bad : Fault := ⟨.hexEscape, rest.length + 1⟩
  let some (code, rest') := fourHex? rest | .error bad
  if rest'.isEmpty then .error bad
  else
    match rest' with
    | '\\' :: 'u' :: low =>
      if !isSurrogate code || 0xDC00 ≤ code || low.length < 5 then return (code, rest')
      else
        match fourHex? low with
        | none => .error ⟨.hexEscape, low.length + 1⟩
        | some (code', rest'') =>
          if 0xDC00 ≤ code' && code' ≤ 0xDFFF then
            return (0x10000 + (code - 0xD800) * 0x400 + (code' - 0xDC00), rest'')
          else return (code, rest')
    | _ => return (code, rest')

/-- The character of a numeric escape. The replacement character stands for half a pair. -/
def numericEscape (rest : List Char) : Except Fault (Char × List Char) := do
  let (code, rest) ← escapeCode rest
  return (if isSurrogate code then '\uFFFD' else .ofNat code, rest)

/-- Whether a text, after its first `skip` characters, escapes half a surrogate pair. -/
def hasHalfPair : (skip : Nat) → List Char → Bool
  | _, [] => false
  | skip + 1, _ :: rest => hasHalfPair skip rest
  | 0, '\\' :: rest =>
    match rest.head?, escapeCode (rest.drop 1) with
    | some 'u', .ok (code, after) =>
      isSurrogate code || hasHalfPair (rest.length - after.length) rest
    | _, _ => hasHalfPair 1 rest
  | 0, _ :: rest => hasHalfPair 0 rest

/-- Reads the rest of a string after its opening quote, where `start` characters were left. -/
def readString (start : Nat) : (fuel : Nat) → List Char → Except Fault (List Char × List Char)
  | 0, _ | _, [] => .error ⟨.unterminated, start⟩
  | _ + 1, '"' :: rest => .ok ([], rest)
  | _ + 1, ['\\'] => .error ⟨.unterminated, start⟩
  | fuel + 1, '\\' :: 'u' :: rest => do
    let (c, rest) ← numericEscape rest
    let (text, rest) ← readString start fuel rest
    return (c :: text, rest)
  | fuel + 1, '\\' :: c :: rest => do
    match simpleEscape? c with
    | none => .error ⟨.escape, rest.length + 2⟩
    | some c =>
      let (text, rest) ← readString start fuel rest
      return (c :: text, rest)
  | fuel + 1, c :: rest =>
    if c.toNat < 32 then .error ⟨.control, rest.length + 1⟩
    else do
      let (text, rest) ← readString start fuel rest
      return (c :: text, rest)

def spanDigits (cs : List Char) : List Char × List Char :=
  (cs.takeWhile Char.isDigit, cs.dropWhile Char.isDigit)

def digitsValue (digits : List Char) : Nat :=
  digits.foldl (fun n digit => n * 10 + (digit.toNat - 48)) 0

def readFraction : List Char → Option (List Char) × List Char
  | '.' :: rest =>
    match spanDigits rest with
    | ([], _) => (none, '.' :: rest)
    | (digits, rest') => (some digits, rest')
  | cs => (none, cs)

def readExponent (cs : List Char) : Option Int × List Char :=
  match cs with
  | e :: rest =>
    if e == 'e' || e == 'E' then
      let (negative, rest') := match rest with
        | '-' :: rest' => (true, rest')
        | '+' :: rest' => (false, rest')
        | _ => (false, rest)
      match spanDigits rest' with
      | ([], _) => (none, cs)
      | (digits, rest'') =>
        (some (if negative then -(digitsValue digits : Int) else digitsValue digits), rest'')
    else (none, cs)
  | [] => (none, [])

/-- The number that whole digits, a fraction and an exponent write: an integer when there are only
whole digits, else of double precision. -/
def numberOf (negative : Bool) (whole : List Char) (fraction : Option (List Char))
    (exponent : Option Int) : Scalar :=
  match fraction, exponent with
  | none, none => .int (if negative then -(digitsValue whole : Int) else digitsValue whole)
  | _, _ =>
    let digits := fraction.getD []
    .real (.ofDecimal negative (digitsValue (whole ++ digits)) (exponent.getD 0 - digits.length))

def readNumber? (negative : Bool) (cs : List Char) : Option (Scalar × List Char) :=
  let whole := match cs with
    | '0' :: rest => (['0'], rest)
    | _ => spanDigits cs
  match whole with
  | ([], _) => none
  | (digits, rest) =>
    let (fraction, rest) := readFraction rest
    let (exponent, rest) := readExponent rest
    some (numberOf negative digits fraction exponent, rest)

def words : List (List Char × Scalar) := [
  ("null".toList, .null), ("true".toList, .bool true), ("false".toList, .bool false),
  ("NaN".toList, .real .notANumber), ("Infinity".toList, .real (.infinity false)),
  ("-Infinity".toList, .real (.infinity true))]

def readScalar? (cs : List Char) : Option (Scalar × List Char) :=
  match words.find? fun word => word.1.isPrefixOf cs with
  | some word => some (word.2, cs.drop word.1.length)
  | none =>
    match cs with
    | '-' :: rest => readNumber? true rest
    | _ => readNumber? false cs

mutual

def readValue : (fuel : Nat) → List Char → Except Fault (Document × List Char)
  | 0, cs => .error ⟨.value, cs.length⟩
  | _ + 1, '"' :: rest => do
    let (text, rest) ← readString (rest.length + 1) (rest.length + 1) rest
    return (.text (.ofList text), rest)
  | fuel + 1, '\x7b' :: rest =>
    match skipSpace rest with
    | '\x7d' :: rest => .ok (.object [], rest)
    | rest => do
      let (members, rest) ← readMembers fuel [] rest
      return (.object members, rest)
  | fuel + 1, '[' :: rest =>
    match skipSpace rest with
    | ']' :: rest => .ok (.array [], rest)
    | rest => do
      let (items, rest) ← readItems fuel rest
      return (.array items, rest)
  | _ + 1, cs =>
    match readScalar? cs with
    | some (value, rest) => .ok (.scalar value, rest)
    | none => .error ⟨.value, cs.length⟩

def readItems : (fuel : Nat) → List Char → Except Fault (List Document × List Char)
  | 0, cs => .error ⟨.value, cs.length⟩
  | fuel + 1, cs => do
    let (item, rest) ← readValue fuel cs
    match skipSpace rest with
    | ']' :: rest => return ([item], rest)
    | ',' :: rest =>
      let (items, rest) ← readItems fuel (skipSpace rest)
      return (item :: items, rest)
    | rest => .error ⟨.comma, rest.length⟩

def readMembers : (fuel : Nat) → Members → List Char → Except Fault (Members × List Char)
  | 0, _, cs => .error ⟨.value, cs.length⟩
  | fuel + 1, members, '"' :: rest => do
    let (name, rest) ← readString (rest.length + 1) (rest.length + 1) rest
    match skipSpace rest with
    | ':' :: rest =>
      let (value, rest) ← readValue fuel (skipSpace rest)
      let members := Members.put members (.ofList name) value
      match skipSpace rest with
      | '\x7d' :: rest => return (members, rest)
      | ',' :: rest => readMembers fuel members (skipSpace rest)
      | rest => .error ⟨.comma, rest.length⟩
    | rest => .error ⟨.colon, rest.length⟩
  | _ + 1, _, cs => .error ⟨.propertyName, cs.length⟩

end

def readChars (cs : List Char) : Except Fault Document := do
  if cs.head?.any (·.toNat == 0xFEFF) then .error ⟨.byteOrderMark, cs.length⟩
  else
    let (value, rest) ← readValue (2 * cs.length + 2) (skipSpace cs)
    match skipSpace rest with
    | [] => return value
    | rest => .error ⟨.extraData, rest.length⟩

def read (s : String) : Except Fault Document := readChars s.toList

def readWhole? (s : String) : Option Document :=
  if hasHalfPair 0 s.toList then none else (read s).toOption

def Problem.message : Problem → String
  | byteOrderMark => "Unexpected UTF-8 BOM (decode using utf-8-sig)"
  | value => "Expecting value"
  | extraData => "Extra data"
  | propertyName => "Expecting property name enclosed in double quotes"
  | colon => "Expecting ':' delimiter"
  | comma => "Expecting ',' delimiter"
  | unterminated => "Unterminated string starting at"
  | control => "Invalid control character at"
  | escape => "Invalid \\escape"
  | hexEscape => "Invalid \\uXXXX escape"

/-- The message for a fault in a text: the problem and its place as line, column and character,
lines and columns counted from one. -/
def Fault.message (text : String) (fault : Fault) : String :=
  let position := text.length - fault.left
  let before := text.toList.take position
  let line := before.count '\n' + 1
  let column := (before.reverse.takeWhile (· != '\n')).length + 1
  s!"{fault.problem.message}: line {line} column {column} (char {position})"

end ClientGen.Json
