/-!
# Binary floating-point numbers

Numbers of a query and of a log line are compared as 64-bit binary
floating-point numbers.  They are kept here as what they stand for, a signed
integer times a power of two, so that comparing them is integer arithmetic.

`nearest` rounds a quotient of natural numbers to the nearest number of the
format, a tie going to the even mantissa, and `ofDecimal` reads a decimal
coefficient and exponent that way.
-/

namespace LogSieve

/-- A number of the 64-bit binary format.  `finite negative mantissa exponent` stands for the
mantissa times two to the exponent, with a sign; zero has a sign too. -/
inductive Binary64 where
  | finite (negative : Bool) (mantissa : Nat) (exponent : Int)
  | infinite (negative : Bool)
  | nan
  deriving DecidableEq

namespace Binary64

/-- The least exponent, which zero and the subnormal numbers have. -/
def leastExponent : Int := -1074

/-- The greatest exponent of a finite number. -/
def greatestExponent : Int := 971

/-- Mantissas are below this bound. -/
def mantissaBound : Nat := Nat.pow 2 53

/-- The quotient of two natural numbers, rounded to the nearest integer, ties to even. -/
def divideToEven (numerator denominator : Nat) : Nat :=
  let quotient := numerator / denominator
  let twice := 2 * (numerator % denominator)
  if twice > denominator ∨ (twice = denominator ∧ quotient % 2 = 1) then quotient + 1 else quotient

/-- A fraction divided by two to the `exponent`, as a fraction again. -/
def scaleDown (numerator denominator : Nat) (exponent : Int) : Nat × Nat :=
  if exponent < 0 then (numerator <<< (-exponent).toNat, denominator)
  else (numerator, denominator <<< exponent.toNat)

/-- The exponent that brings a positive fraction below the mantissa bound and, if the format
allows it, to at least half of it. -/
def exponentFor (numerator denominator : Nat) : Int :=
  let guess := max leastExponent ((numerator.log2 : Int) - (denominator.log2 : Int) - 53)
  let (top, bottom) := scaleDown numerator denominator guess
  if top / bottom < mantissaBound then guess else guess + 1

/-- The number nearest to a fraction with a positive denominator; an infinity beyond the range. -/
def nearest (negative : Bool) (numerator denominator : Nat) : Binary64 :=
  if numerator = 0 then .finite negative 0 leastExponent
  else
    let exponent := exponentFor numerator denominator
    let (top, bottom) := scaleDown numerator denominator exponent
    let rounded := divideToEven top bottom
    let (mantissa, exponent) :=
      if rounded < mantissaBound then (rounded, exponent) else (rounded / 2, exponent + 1)
    if exponent > greatestExponent then .infinite negative else .finite negative mantissa exponent

/-- The number nearest to a coefficient times a power of ten.  Powers far outside the range of
the format are settled by the sizes alone. -/
def ofDecimal (negative : Bool) (coefficient : Nat) (power : Int) : Binary64 :=
  let size := (coefficient.log2 : Int) + 3 * power
  if coefficient = 0 then .finite negative 0 leastExponent
  else if 0 ≤ power then
    if size > 1024 then .infinite negative
    else nearest negative (coefficient * Nat.pow 10 power.toNat) 1
  else if size < -1100 then .finite negative 0 leastExponent
  else nearest negative coefficient (Nat.pow 10 (-power).toNat)

/-- The signed mantissa of a finite number written with a smaller exponent. -/
def alignedMantissa (negative : Bool) (mantissa : Nat) (exponent lower : Int) : Int :=
  let aligned : Int := Int.ofNat (mantissa <<< (exponent - lower).toNat)
  if negative then -aligned else aligned

/-- Whether one number is at most another one; never so for a NaN. -/
def atMost : Binary64 → Binary64 → Bool
  | .nan, _ | _, .nan => false
  | .infinite true, _ | _, .infinite false => true
  | .infinite false, _ | _, .infinite true => false
  | .finite n m e, .finite n' m' e' =>
    let lower := min e e'
    alignedMantissa n m e lower ≤ alignedMantissa n' m' e' lower

/-- The integer that a number is, if it is one. -/
def toInt? : Binary64 → Option Int
  | .finite negative mantissa exponent =>
    let signed (n : Nat) : Int := if negative then -Int.ofNat n else Int.ofNat n
    if 0 ≤ exponent then some (signed (mantissa <<< exponent.toNat))
    else if mantissa % Nat.pow 2 (-exponent).toNat = 0 then
      some (signed (mantissa >>> (-exponent).toNat))
    else none
  | _ => none

/-- Whether a number is zero, of either sign. -/
def isZero : Binary64 → Bool
  | .finite _ mantissa _ => mantissa == 0
  | _ => false

end Binary64

end LogSieve
