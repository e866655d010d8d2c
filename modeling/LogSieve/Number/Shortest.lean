import LogSieve.Number.Binary64

/-!
# The shortest decimal that reads back

A finite number is written with the fewest significant digits from which it is
read back; among those decimals the one nearest to the number is taken.  On a
grid of decimals only the two neighbours of the number can be meant, so each
grid from one to seventeen digits is asked for these two.
-/

namespace LogSieve.Binary64

/-- How many zeros follow the point before the first significant digit of a fraction below one. -/
def leadingZeros (denominator : Nat) : Nat → Nat → Nat
  | 0, _ => 0
  | fuel + 1, numerator =>
    if numerator * 10 ≥ denominator then 0 else leadingZeros denominator fuel (numerator * 10) + 1

/-- The position `p` of the decimal point: the positive fraction is below ten to the `p` and at
least a tenth of that. -/
def decimalPosition (numerator denominator : Nat) : Int :=
  if numerator ≥ denominator then ((Nat.toDigits 10 (numerator / denominator)).length : Int)
  else -(leadingZeros denominator 400 numerator : Int)

/-- The numerator and denominator of a mantissa times a power of two. -/
def fraction (mantissa : Nat) (exponent : Int) : Nat × Nat :=
  if exponent < 0 then (mantissa, Nat.pow 2 (-exponent).toNat) else (mantissa <<< exponent.toNat, 1)

/-- The neighbour on the grid of multiples of ten to the `power` from which the number is read
back; the nearer one if both serve, the even one if they are equally near. -/
def onGrid? (mantissa : Nat) (exponent power : Int) : Option Nat :=
  let (top, bottom) := fraction mantissa exponent
  let (top, bottom) :=
    if power < 0 then (top * Nat.pow 10 (-power).toNat, bottom)
    else (top, bottom * Nat.pow 10 power.toNat)
  let below := top / bottom
  let target := Binary64.finite false mantissa exponent
  let belowServes := ofDecimal false below power == target
  let aboveServes := ofDecimal false (below + 1) power == target
  if belowServes && aboveServes then some (divideToEven top bottom)
  else if belowServes then some below
  else if aboveServes then some (below + 1)
  else none

/-- The first grid, from `count` digits on, that has a serving neighbour. -/
def firstGrid (mantissa : Nat) (exponent position : Int) : Nat → Nat → Nat × Int
  | 0, _ => (0, 0)
  | fuel + 1, count =>
    let power := position - count
    match onGrid? mantissa exponent power with
    | some coefficient => (coefficient, power)
    | none => firstGrid mantissa exponent position fuel (count + 1)

/-- The significant digits of a positive number, without zeros at the end, and the position of
the decimal point counted from the first of them. -/
def shortestDigits (mantissa : Nat) (exponent : Int) : List Char × Int :=
  let (top, bottom) := fraction mantissa exponent
  let (coefficient, power) := firstGrid mantissa exponent (decimalPosition top bottom) 17 1
  let digits := Nat.toDigits 10 coefficient
  ((digits.reverse.dropWhile (· == '0')).reverse, power + digits.length)

end LogSieve.Binary64
