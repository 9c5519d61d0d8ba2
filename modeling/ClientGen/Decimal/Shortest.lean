import ClientGen.Decimal.Binary64

/-!
The shortest decimal text of a number of double precision: the fewest digits that read back, of
those the nearest, written positionally for decimal exponents from -4 to 15.
-/
namespace ClientGen.Decimal

/-- The exact value and the bounds of the interval that rounds to it, over one denominator. -/
structure RoundingInterval where
  low : Nat
  value : Nat
  high : Nat
  denominator : Nat
  closed : Bool

/-- The interval of the positive number `mantissa` times a power of two. Below a power of two the
neighbour is half as far, and the ends belong to the interval of an even mantissa. -/
def RoundingInterval.of (mantissa : Nat) (exponent : Int) : RoundingInterval :=
  let below := if mantissa == twoTo 52 && leastExponent < exponent then 1 else 2
  let scale := twoTo exponent.toNat
  { low := (4 * mantissa - below) * scale, value := 4 * mantissa * scale,
    high := (4 * mantissa + 2) * scale, denominator := 4 * twoTo (-exponent).toNat,
    closed := mantissa % 2 == 0 }

/-- Whether `digits` times a power of ten, given as a quotient of powers, lies in the interval. -/
def RoundingInterval.holds (i : RoundingInterval) (digits up down : Nat) : Bool :=
  let point := digits * up * i.denominator
  if i.closed then i.low * down ≤ point && point ≤ i.high * down
  else i.low * down < point && point < i.high * down

def leadingExponent (numerator denominator : Nat) : Int :=
  if denominator ≤ numerator then (decimalLength (numerator / denominator) : Int) - 1
  else
    let guess := decimalLength (denominator / numerator)
    if denominator ≤ numerator * tenTo (guess - 1) then 1 - (guess : Int) else -(guess : Int)

/-- The digits on the grid of a power of ten that lie in the interval: of the two neighbours of the
value the nearer one that does, a tie to the even one. -/
def RoundingInterval.onGrid? (i : RoundingInterval) (power : Int) : Option Nat :=
  let up := tenTo power.toNat
  let down := tenTo (-power).toNat
  let unit := i.denominator * up
  let floor := i.value * down / unit
  let rest := i.value * down % unit
  match i.holds floor up down && 0 < floor, i.holds (floor + 1) up down with
  | true, true =>
    if 2 * rest < unit then some floor
    else if unit < 2 * rest then some (floor + 1)
    else some (floor + floor % 2)
  | true, false => some floor
  | false, true => some (floor + 1)
  | false, false => none

/-- The digits and the power of ten of the shortest decimal that reads back as the number. The
first of the seventeen grids with a point in the interval decides. -/
def shortestDecimal (mantissa : Nat) (exponent : Int) : Nat × Int :=
  let interval := RoundingInterval.of mantissa exponent
  let leading := leadingExponent interval.value interval.denominator
  let hit? := (List.range 17).findSome? fun (places : Nat) =>
    (interval.onGrid? (leading - places)).map fun digits => (digits, leading - (places : Int))
  hit?.getD (mantissa, 0)

/-- The digits without the zeros at their end, with the power of ten moved along. -/
def stripZeros : (fuel digits : Nat) → (power : Int) → Nat × Int
  | 0, digits, power => (digits, power)
  | fuel + 1, digits, power =>
    if digits % 10 == 0 && digits != 0 then stripZeros fuel (digits / 10) (power + 1)
    else (digits, power)

def decimalText (digits : Nat) (power : Int) : List Char :=
  let (digits, power) := stripZeros 20 digits power
  let text := Nat.toDigits 10 digits
  let leading : Int := power + text.length - 1
  if -4 ≤ leading && leading < 16 then
    if 0 ≤ power then text ++ List.replicate power.toNat '0' ++ ['.', '0']
    else if 0 ≤ leading then
      text.take (leading.toNat + 1) ++ '.' :: text.drop (leading.toNat + 1)
    else '0' :: '.' :: List.replicate (-leading - 1).toNat '0' ++ text
  else
    let mark := match text with
      | [digit] => [digit]
      | digit :: rest => digit :: '.' :: rest
      | [] => []
    let size := Nat.toDigits 10 leading.natAbs
    mark ++ 'e' :: (if leading < 0 then '-' else '+') ::
      (if size.length < 2 then '0' :: size else size)

structure SpecialNames where
  infinity : String
  notANumber : String

def Binary64.toText (names : SpecialNames) : Binary64 → String
  | .finite negative mantissa exponent =>
    let digits :=
      if mantissa == 0 then ['0', '.', '0']
      else
        let (digits, power) := shortestDecimal mantissa exponent
        decimalText digits power
    .ofList (if negative then '-' :: digits else digits)
  | .infinity negative => if negative then "-" ++ names.infinity else names.infinity
  | .notANumber => names.notANumber

end ClientGen.Decimal
