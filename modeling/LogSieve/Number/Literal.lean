import LogSieve.Number.Binary64
import LogSieve.Text.Digit

/-!
# Number literals

The pieces that number literals are made of, over any class of digits: runs of
digits, a fraction, an exponent.  The two grammars of the library, one for the
numbers of embedded objects and one for the numbers at the start of a value,
are put together from them.
-/

namespace LogSieve.Number

/-- The values of the digits at the start of a text, and the rest. -/
def digitRun (digit? : Char → Option Nat) : List Char → List Nat × List Char
  | [] => ([], [])
  | c :: rest =>
    match digit? c with
    | some value => let (values, after) := digitRun digit? rest; (value :: values, after)
    | none => ([], c :: rest)

/-- A sign, if there is one, and the rest. -/
def sign? : List Char → Option Bool × List Char
  | '-' :: rest => (some true, rest)
  | '+' :: rest => (some false, rest)
  | text => (none, text)

/-- An exponent: the letter, an optional sign and at least one digit. -/
def exponent? (digit? : Char → Option Nat) : List Char → Option (Int × List Char)
  | c :: rest =>
    if c = 'e' ∨ c = 'E' then
      let (sign, unsigned) := sign? rest
      match digitRun digit? unsigned with
      | ([], _) => none
      | (values, after) =>
        let size := Int.ofNat (Text.numberOf 10 values)
        some (if sign = some true then -size else size, after)
    else none
  | [] => none

/-- A decimal as it was written: sign, digits before and after the point, exponent. -/
structure Literal where
  negative : Bool
  whole : List Nat
  fraction : List Nat
  exponent : Int
  deriving DecidableEq

/-- The number that a literal stands for, rounded to the 64-bit binary format. -/
def Literal.toBinary64 (literal : Literal) : Binary64 :=
  Binary64.ofDecimal literal.negative (Text.numberOf 10 (literal.whole ++ literal.fraction))
    (literal.exponent - literal.fraction.length)

end LogSieve.Number
