/-!
Days of the calendar and points in time, which YAML can write. A time with an offset from universal
time is the same point as its universal time.
-/
namespace ClientGen

structure Date where
  year : Nat
  month : Nat
  day : Nat
deriving DecidableEq, Repr

namespace Date

def daysIn (year month : Nat) : Nat :=
  if month == 2 then
    if year % 4 == 0 && (year % 100 != 0 || year % 400 == 0) then 29 else 28
  else if [4, 6, 9, 11].contains month then 30 else 31

def isValid (date : Date) : Bool :=
  1 ≤ date.year && 1 ≤ date.month && date.month ≤ 12 && 1 ≤ date.day &&
    date.day ≤ daysIn date.year date.month

def next (date : Date) : Date :=
  if date.day < daysIn date.year date.month then { date with day := date.day + 1 }
  else if date.month < 12 then ⟨date.year, date.month + 1, 1⟩
  else ⟨date.year + 1, 1, 1⟩

def previous (date : Date) : Date :=
  if 1 < date.day then { date with day := date.day - 1 }
  else if 1 < date.month then
    ⟨date.year, date.month - 1, daysIn date.year (date.month - 1)⟩
  else ⟨date.year - 1, 12, 31⟩

end Date

/-- A point in time, with the offset from universal time in minutes where one was written. -/
structure Moment where
  date : Date
  hour : Nat
  minute : Nat
  second : Nat
  microsecond : Nat
  offset : Option Int
deriving DecidableEq, Repr

namespace Moment

def minutesOfDay : Nat := 1440

def isValid (moment : Moment) : Bool :=
  moment.date.isValid && moment.hour < 24 && moment.minute < 60 && moment.second < 60 &&
    (moment.offset.getD 0).natAbs < minutesOfDay

/-- The same point in universal time. A point without an offset stays as it is. -/
def universal (moment : Moment) : Moment :=
  match moment.offset with
  | none => moment
  | some offset =>
    let minutes : Int := (moment.hour * 60 + moment.minute : Nat) - offset
    let clock (date : Date) (minutes : Nat) : Moment :=
      { moment with date, hour := minutes / 60, minute := minutes % 60, offset := some 0 }
    if minutes < 0 then clock moment.date.previous (minutes + minutesOfDay).toNat
    else if minutes < minutesOfDay then clock moment.date minutes.toNat
    else clock moment.date.next (minutes - minutesOfDay).toNat

end Moment

end ClientGen
