import ClientGen.Conversion.Target
import ClientGen.Conversion.Value
import ClientGen.Document.Json.Reader
import ClientGen.Document.Truth
import ClientGen.Failure
import ClientGen.Text.Digit

/-!
Values of the types from texts: from JSON, where whole numbers and truth values may also be written
as texts, or straight from the text that the value is written as. Also the checks of what a handler
is called with.
-/
namespace ClientGen.Conversion

/-- Why a call of a generated client is refused. `unusable` stands for a value that the conversion
has no use for. -/
inductive Refusal where
  | unusable
  | wrongCount (expected : Int)
  | bodyExpected (type : String)
  | noBodyExpected
  | invalidText (text label : String)
  | invalidJson (label : String)
  | invalidJsonText
deriving DecidableEq, Repr

def Refusal.message : Refusal → String
  | unusable => ""
  | wrongCount expected =>
    "wrong number of parameters (" ++
      (if expected == 0 then "none expected"
       else if expected == 1 then "one parameter expected"
       else s!"{expected} parameters expected") ++ ")"
  | bodyExpected type => "body expected (" ++ type ++ ")"
  | noBodyExpected => "no body expected"
  | invalidText text label => "'" ++ text ++ "' is not a valid " ++ label
  | invalidJson label => "json could not be parsed as a valid " ++ label
  | invalidJsonText => "json body could not be parsed as a valid string"

def checkParameters (given expected : Int) : Except Refusal Unit :=
  if given == expected then .ok () else .error (.wrongCount expected)

/-- Refuses a call with a body that is missing or not wanted. -/
def checkBody (hasBody : Bool) (type : Option String) : Except Refusal Unit :=
  match type, hasBody with
  | some type, false => .error (.bodyExpected type)
  | none, true => .error .noBodyExpected
  | _, _ => .ok ()

/-! ### Whole numbers in texts -/

def plainNatural? (cs : List Char) : Option Int :=
  if cs.isEmpty || !cs.all Char.isDigit || (cs.head? == some '0' && cs.length != 1) then none
  else some (Json.digitsValue cs)

def plainInt? : List Char → Option Int
  | '-' :: digits => (plainNatural? digits).map (- ·)
  | digits => plainNatural? digits

/-- A text without the zeros at its start, given the last of them. The zero before a point stays,
and underscores among the zeros go with them. -/
def dropZeros (last : Char) : List Char → Option (List Char)
  | [] => some [last]
  | c :: rest =>
    if c == '0' || c == '_' then dropZeros c rest
    else if c.isDigit then some (c :: rest)
    else if c == '.' then some (last :: c :: rest)
    else none

def withoutZeros : List Char → Option (List Char)
  | '0' :: rest => dropZeros '0' rest
  | c :: rest => if c.isDigit || c == '-' then some (c :: rest) else none
  | [] => none

def withoutFraction (cs : List Char) : List Char :=
  let whole := cs.takeWhile (· != '.')
  if (cs.drop (whole.length + 1)).all (· == '0') then whole else cs

def hasDoubleUnderscore : List Char → Bool
  | '_' :: '_' :: _ => true
  | _ :: rest => hasDoubleUnderscore rest
  | [] => false

/-- A text without its underscores, which must stand alone and between other characters. -/
def withoutUnderscores (cs : List Char) : List Char :=
  if cs.head? == some '_' || cs.getLast? == some '_' || hasDoubleUnderscore cs then cs
  else cs.filter (· != '_')

/-- The whole number that a text writes, with blanks around it, a plus sign, zeros at the start, a
fraction of zeros and single underscores allowed. -/
def wholeOfText? (s : String) : Option Int :=
  let cs := Text.trimNumber s.toList
  let unsigned := match cs with
    | '+' :: '-' :: _ => none
    | '+' :: rest => some rest
    | cs => some cs
  (unsigned.bind withoutZeros).bind fun cs =>
    plainInt? (withoutUnderscores (withoutFraction cs))

/-! ### From JSON -/

/-- The whole number that a number of double precision stands for, if it fits in 64 bits. -/
def wholeOfReal? (value : Decimal.Binary64) : Option Int :=
  value.toInt?.filter fun n =>
    -(Decimal.twoTo 63 : Int) ≤ n && n < Decimal.twoTo 63

def whole? : Scalar → Option Int
  | .int value => some value
  | .bool value => some (if value then 1 else 0)
  | .real value => wholeOfReal? value
  | .text value => wholeOfText? value
  | _ => none

def memberOf? (choice : String) (members : List (String × String)) (value : String) :
    Option Value :=
  (members.find? fun member => member.2 == value).map fun member =>
    .member choice member.1 member.2

mutual

def ofDocument? : Target → Document → Option Value
  | .text, .text value => some (.text value)
  | .whole, .scalar value => (whole? value).map .whole
  | .truth, .scalar value => value.truth?.map .truth
  | .record name fields, .object members => (ofMembers? fields members).map (.record name)
  | .root name content, document => (ofDocument? content document).map (.root name)
  | .choice name members, .text value => memberOf? name members value
  | .list item, .array items => (items.mapM fun document => ofDocument? item document).map .list
  | .map target, .object members =>
    (members.mapM fun (member : Scalar × Document) =>
      (ofDocument? target member.2).map fun value => (member.1.display, value)).map .map
  | _, _ => none

def ofMembers? : List (String × Target) → Members → Option (List (String × Value))
  | [], _ => some []
  | (name, target) :: rest, members => do
    let value ← ofDocument? target (← Members.get? members name)
    return (name, value) :: (← ofMembers? rest members)

end

def ofJson (target : Target) (text : String) : Except Refusal Value :=
  if !target.isReadable then .error .unusable
  else
    match (Json.readWhole? text).bind (ofDocument? target) with
    | some value => .ok value
    | none => .error (.invalidJson target.label)

def textOfJson (text : String) : Except Refusal String :=
  match Json.readWhole? text with
  | some (.text value) => .ok value
  | _ => .error .invalidJsonText

/-! ### From texts -/

def ofText? (s : String) : Target → Option Value
  | .text => some (.text s)
  | .whole => (Text.integer? s).map .whole
  | .truth => some (.truth (!s.isEmpty))
  | .record _ _ => none
  | .root name content => (ofDocument? content (.text s)).map (.root name)
  | .choice name members => memberOf? name members s
  | .pattern _ accepted =>
    if !s.isEmpty && s.toList.all accepted.contains then some (.text s) else none
  | .list _ => some (.list (Value.characters s))
  | .map _ => if s.isEmpty then some (.map []) else none

def ofText (target : Target) (s : String) : Except Refusal Value :=
  match ofText? s target with
  | some value => .ok value
  | none => .error (.invalidText s target.label)

end ClientGen.Conversion
