import ClientGen.Decimal.Shortest
import ClientGen.Document.Calendar
import ClientGen.Text.Quoted

/-!
Scalar values of documents: what JSON can write, and the dates, times and byte strings that YAML
adds. Equal numbers are the same key, whatever their kind, and so are two times at the same point;
true and false count as one and zero.
-/
namespace ClientGen

open Decimal

inductive Scalar where
  | null
  | bool (value : Bool)
  | int (value : Int)
  | real (value : Binary64)
  | text (value : String)
  | date (value : Date)
  | moment (value : Moment)
  | bytes (value : List Nat)
deriving DecidableEq, Repr

namespace Scalar

/-- The scalar that stands for all scalars of the same value: the integer for every number equal to
one, universal time for a time with an offset, and the value itself otherwise. -/
def canonical : Scalar → Scalar
  | bool value => int (if value then 1 else 0)
  | real value => (value.toInt?.map int).getD (real value)
  | moment value => moment value.universal
  | scalar => scalar

/-- Whether two scalars are the same value. -/
def same (a b : Scalar) : Bool := a.canonical == b.canonical

@[simp] theorem canonical_text (s : String) : canonical (text s) = text s := rfl

/-- Keys that are texts are the same only if the texts are equal. -/
theorem same_text (s t : String) : same (text s) (text t) = (s == t) := by
  rw [Bool.eq_iff_iff]
  simp [same, canonical]

/-- Whether a scalar counts as nothing: null, false, zero, or empty. -/
def isVoid : Scalar → Bool
  | null => true
  | bool value => !value
  | int value => value == 0
  | real value => value.isZero
  | text value => value.isEmpty
  | bytes value => value.isEmpty
  | date _ | moment _ => false

/-- A number of at least `width` digits, filled up with zeros. -/
def padded (width n : Nat) : String :=
  let digits := Nat.toDigits 10 n
  .ofList (List.replicate (width - digits.length) '0' ++ digits)

/-- A day as year, month and day. -/
def dateText (d : Date) : String :=
  padded 4 d.year ++ "-" ++ padded 2 d.month ++ "-" ++ padded 2 d.day

/-- A time as hours, minutes, seconds and, unless zero, microseconds, with its offset. -/
def timeText (m : Moment) : String :=
  let clock := padded 2 m.hour ++ ":" ++ padded 2 m.minute ++ ":" ++ padded 2 m.second
  let fraction := if m.microsecond == 0 then "" else "." ++ padded 6 m.microsecond
  let offset := match m.offset with
    | none => ""
    | some minutes =>
      (if minutes < 0 then "-" else "+") ++ padded 2 (minutes.natAbs / 60) ++ ":" ++
        padded 2 (minutes.natAbs % 60)
  clock ++ fraction ++ offset

/-- How messages spell the values of double precision that have no digits. -/
def messageNames : SpecialNames := ⟨"inf", "nan"⟩

/-- An offset from universal time as messages quote it: whole days, below zero if need be, and the
seconds of the last day. -/
def quoteOffset (minutes : Int) : String :=
  if minutes == 0 then "datetime.timezone.utc"
  else
    let seconds := s!"seconds={(minutes * 60).emod 86400}"
    let length := if minutes < 0 then "days=-1, " ++ seconds else seconds
    "datetime.timezone(datetime.timedelta(" ++ length ++ "))"

def messageByte (quote : Char) (byte : Nat) : List Char :=
  if 32 ≤ byte && byte < 127 || byte == 9 || byte == 10 || byte == 13 then
    Text.messageChar quote (Char.ofNat byte)
  else '\\' :: 'x' :: Text.hexDigits 2 byte

def quoted : Scalar → String
  | null => "None"
  | bool value => if value then "True" else "False"
  | int value => toString value
  | real value => value.toText messageNames
  | text value => Text.quoteMessage value
  | date value => s!"datetime.date({value.year}, {value.month}, {value.day})"
  | moment value =>
    let day := [value.date.year, value.date.month, value.date.day, value.hour, value.minute]
    let rest :=
      if value.microsecond != 0 then [value.second, value.microsecond]
      else if value.second != 0 then [value.second] else []
    let zone := match value.offset with
      | none => []
      | some minutes => ["tzinfo=" ++ quoteOffset minutes]
    "datetime.datetime(" ++ ", ".intercalate ((day ++ rest).map toString ++ zone) ++ ")"
  | bytes value =>
    let quote := Text.messageQuote (value.map Char.ofNat)
    .ofList ('b' :: quote :: value.flatMap (messageByte quote) ++ [quote])

def display : Scalar → String
  | text value => value
  | date value => dateText value
  | moment value => dateText value.date ++ " " ++ timeText value
  | scalar => scalar.quoted

def typeName : Scalar → String
  | null => "NoneType"
  | bool _ => "bool"
  | int _ => "int"
  | real _ => "float"
  | text _ => "str"
  | date _ => "date"
  | moment _ => "datetime"
  | bytes _ => "bytes"

end Scalar

end ClientGen
