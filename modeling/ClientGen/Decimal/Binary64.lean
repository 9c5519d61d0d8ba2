/-!
Numbers of double precision as exact data: a mantissa below 2^53 times a power of two. Decimal
notation is rounded to the nearest number, a tie to the even mantissa.
-/
namespace ClientGen.Decimal

/-- A number of double precision. The mantissa of a finite number is below 2^53, and at least 2^52
unless the exponent is the least one. -/
inductive Binary64 where
  | finite (negative : Bool) (mantissa : Nat) (exponent : Int)
  | infinity (negative : Bool)
  | notANumber
deriving DecidableEq, Repr

def twoTo (exponent : Nat) : Nat := Nat.pow 2 exponent

def tenTo (exponent : Nat) : Nat := Nat.pow 10 exponent

def leastExponent : Int := -1074

def greatestExponent : Int := 971

/-- The quotient rounded to the nearest whole number, a tie to the even one. -/
def roundQuotient (numerator denominator : Nat) : Nat :=
  let whole := numerator / denominator
  let rest := numerator % denominator
  if 2 * rest < denominator then whole
  else if denominator < 2 * rest then whole + 1
  else whole + whole % 2

/-- The exponent at which the quotient has a mantissa of 53 binary digits, or the least one. -/
def exponentOf (numerator denominator : Nat) : Int :=
  let guess : Int := (numerator.log2 : Int) - denominator.log2 - 52
  let reaches : Bool :=
    if 0 ≤ guess then denominator * twoTo (guess.toNat + 52) ≤ numerator
    else denominator * twoTo 52 ≤ numerator * twoTo (-guess).toNat
  max leastExponent (if reaches then guess else guess - 1)

def Binary64.ofQuotient (negative : Bool) (numerator denominator : Nat) : Binary64 :=
  if numerator == 0 then .finite negative 0 leastExponent
  else
    let exponent := exponentOf numerator denominator
    let mantissa :=
      if 0 ≤ exponent then roundQuotient numerator (denominator * twoTo exponent.toNat)
      else roundQuotient (numerator * twoTo (-exponent).toNat) denominator
    let (mantissa, exponent) :=
      if mantissa == twoTo 53 then (twoTo 52, exponent + 1) else (mantissa, exponent)
    if greatestExponent < exponent then .infinity negative else .finite negative mantissa exponent

def decimalLength (n : Nat) : Nat := (Nat.toDigits 10 n).length

/-- The number nearest to `digits` times a power of ten. Exponents so large or small that no digit
counts are decided without computing the power. -/
def Binary64.ofDecimal (negative : Bool) (digits : Nat) (exponent : Int) : Binary64 :=
  let size := exponent + decimalLength digits
  if digits == 0 || size < -330 then .finite negative 0 leastExponent
  else if 320 < size then .infinity negative
  else if 0 ≤ exponent then .ofQuotient negative (digits * tenTo exponent.toNat) 1
  else .ofQuotient negative digits (tenTo (-exponent).toNat)

def Binary64.ofInt (n : Int) : Binary64 := .ofQuotient (n < 0) n.natAbs 1

def Binary64.toInt? : Binary64 → Option Int
  | .finite negative mantissa exponent =>
    let whole? : Option Nat :=
      if 0 ≤ exponent then some (mantissa * twoTo exponent.toNat)
      else
        let unit := twoTo (-exponent).toNat
        if mantissa % unit == 0 then some (mantissa / unit) else none
    whole?.map fun whole => if negative then -(whole : Int) else whole
  | _ => none

def Binary64.isZero : Binary64 → Bool
  | .finite _ mantissa _ => mantissa == 0
  | _ => false

def Binary64.opposite : Binary64 → Binary64
  | .finite negative mantissa exponent => .finite (!negative) mantissa exponent
  | .infinity negative => .infinity (!negative)
  | .notANumber => .notANumber

/-- The number nearest to a whole number times a power of two. -/
def Binary64.scaled (negative : Bool) (whole : Nat) (exponent : Int) : Binary64 :=
  .ofQuotient negative (whole * twoTo exponent.toNat) (twoTo (-exponent).toNat)

/-- The product, rounded once. -/
def Binary64.mul : Binary64 → Binary64 → Binary64
  | .finite s m e, .finite t n f => .scaled (s != t) (m * n) (e + f)
  | .infinity s, .infinity t => .infinity (s != t)
  | .infinity s, .finite t m _ | .finite s m _, .infinity t =>
    if m == 0 then .notANumber else .infinity (s != t)
  | _, _ => .notANumber

/-- The sum, rounded once. A sum of zero is negative only if both parts are. -/
def Binary64.add : Binary64 → Binary64 → Binary64
  | .finite s m e, .finite t n f =>
    let least := min e f
    let part (negative : Bool) (mantissa : Nat) (exponent : Int) : Int :=
      (if negative then -1 else 1) * (mantissa * twoTo (exponent - least).toNat : Nat)
    let sum := part s m e + part t n f
    if sum == 0 then .finite (s && t) 0 leastExponent else .scaled (sum < 0) sum.natAbs least
  | .infinity s, .infinity t => if s == t then .infinity s else .notANumber
  | .infinity s, .finite _ _ _ | .finite _ _ _, .infinity s => .infinity s
  | _, _ => .notANumber

end ClientGen.Decimal
