import LogSieve.Text.Blank
import LogSieve.Text.Digit

/-!
# Integers as people write them

A written integer may have blanks around it, a sign, digits of any writing
system, and single underscores between its digits.
-/

namespace LogSieve.Text

/-- The greatest number of digits of a written integer. -/
def integerDigitLimit : Nat := 4300

/-- Whether a character may stand before or after a written integer. -/
def padsInteger (c : Char) : Bool := isBlank c && !(28 ≤ c.toNat && c.toNat ≤ 31)

/-- The digit values of digits with single underscores between them. -/
def groupedDigits? : Text → Option (List Nat)
  | [] => none
  | [c] => (digitValue? c).map ([·])
  | c :: '_' :: rest => do return (← digitValue? c) :: (← groupedDigits? rest)
  | c :: rest => do return (← digitValue? c) :: (← groupedDigits? rest)

/-- The integer that a text writes. -/
def integer? (t : Text) : Option Int :=
  let trimmed := ((t.dropWhile padsInteger).reverse.dropWhile padsInteger).reverse
  let (negative, digits) := match trimmed with
    | '-' :: rest => (true, rest)
    | '+' :: rest => (false, rest)
    | _ => (false, trimmed)
  match groupedDigits? digits with
  | some values =>
    if values.length > integerDigitLimit then none
    else
      let size := Int.ofNat (numberOf 10 values)
      some (if negative then -size else size)
  | none => none

/-- What is said of an integer with too many digits to be read. -/
def digitsMessage (count : Nat) : Text :=
  "Exceeds the limit (4300 digits) for integer string conversion: value has ".toList ++
    ofNat count ++ " digits; use sys.set_int_max_str_digits() to increase the limit".toList

end LogSieve.Text
