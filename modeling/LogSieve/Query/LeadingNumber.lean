import LogSieve.Number.Literal
import LogSieve.Text.Blank

/-!
# The number at the start of a value

A value such as `250ms` counts as the number that it begins with.  Blanks in
front do not matter; then come an optional sign and either the word `Infinity`
or digits with at most one point among, before or after them and an optional
exponent.  The digits may be those of any writing system.
-/

namespace LogSieve.Query

/-- The number that a value begins with, before it is rounded. -/
inductive Numeral where
  | infinity (negative : Bool)
  | decimal (literal : Number.Literal)
  deriving DecidableEq

/-- The number that a numeral stands for. -/
def Numeral.toBinary64 : Numeral → Binary64
  | infinity negative => .infinite negative
  | decimal literal => literal.toBinary64

/-- The digits before and after the point, and the rest; at least one digit is needed. -/
def mantissa? (text : Text) : Option (List Nat × List Nat × Text) :=
  match Number.digitRun Text.digitValue? text with
  | ([], '.' :: rest) =>
    match Number.digitRun Text.digitValue? rest with
    | ([], _) => none
    | (fraction, after) => some ([], fraction, after)
  | ([], _) => none
  | (whole, '.' :: rest) =>
    let (fraction, after) := Number.digitRun Text.digitValue? rest
    some (whole, fraction, after)
  | (whole, after) => some (whole, [], after)

/-- The numeral at the very start of a text, and the rest. -/
def numeral? (text : Text) : Option (Numeral × Text) :=
  let (sign, unsigned) := Number.sign? text
  let negative := sign == some true
  let word := "Infinity".toList
  if word.isPrefixOf unsigned then some (.infinity negative, unsigned.drop word.length)
  else
    (mantissa? unsigned).map fun (whole, fraction, rest) =>
      match Number.exponent? Text.digitValue? rest with
      | some (exponent, after) => (.decimal ⟨negative, whole, fraction, exponent⟩, after)
      | none => (.decimal ⟨negative, whole, fraction, 0⟩, rest)

/-- The number that a value begins with. -/
def leadingNumber? (value : Text) : Option Binary64 :=
  (numeral? (Text.stripStart value)).map fun (numeral, _) => numeral.toBinary64

end LogSieve.Query
