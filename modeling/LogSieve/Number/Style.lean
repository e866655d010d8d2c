import LogSieve.Number.Shortest
import LogSieve.Text.Basic

/-!
# Numbers as text

The decisions that a written number needs are gathered in one value, `Style`:
between which exponents a number is written without an exponent, whether an
integral number keeps a point and a zero, and how exponents, infinities and the
NaN are written.
-/

namespace LogSieve.Binary64

/-- How a number is written. -/
structure Style where
  /-- The least decimal exponent written positionally. -/
  leastPositional : Int
  /-- The greatest decimal exponent written positionally. -/
  greatestPositional : Int
  /-- What follows an integral number that is written positionally. -/
  integralTail : Text
  /-- The least number of digits of an exponent. -/
  exponentWidth : Nat
  infinity : Text
  nan : Text

/-- Numbers from 0.0001 to just below ten to the sixteenth are written positionally, always with
a point; exponents have a sign and at least two digits. -/
def Style.standard : Style := ⟨-4, 15, ".0".toList, 2, "inf".toList, "nan".toList⟩

/-- Digits with the decimal point at `position`, counted from the first digit. -/
def positional (style : Style) (digits : Text) (position : Int) : Text :=
  if position ≤ 0 then "0.".toList ++ List.replicate (-position).toNat '0' ++ digits
  else if position.toNat < digits.length then
    digits.take position.toNat ++ '.' :: digits.drop position.toNat
  else digits ++ List.replicate (position.toNat - digits.length) '0' ++ style.integralTail

/-- Digits with a point after the first one and an exponent. -/
def scientific (style : Style) (digits : Text) (exponent : Int) : Text :=
  let mantissa := match digits with
    | first :: second :: rest => first :: '.' :: second :: rest
    | short => short
  let sign := if exponent < 0 then '-' else '+'
  mantissa ++ 'e' :: sign :: Text.padStart style.exponentWidth '0' (Text.ofNat exponent.natAbs)

/-- The text of a number in the given style. -/
def text (style : Style) : Binary64 → Text
  | .nan => style.nan
  | .infinite negative => (if negative then ['-'] else []) ++ style.infinity
  | .finite negative mantissa exponent =>
    let magnitude :=
      if mantissa = 0 then '0' :: style.integralTail
      else
        let (digits, position) := shortestDigits mantissa exponent
        if style.leastPositional ≤ position - 1 ∧ position - 1 ≤ style.greatestPositional then
          positional style digits position
        else scientific style digits (position - 1)
    (if negative then ['-'] else []) ++ magnitude

end LogSieve.Binary64
