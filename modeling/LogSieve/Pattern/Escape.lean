import LogSieve.Pattern.CharName
import LogSieve.Pattern.Progress
import LogSieve.Text.Digit
import LogSieve.Text.Word

/-!
# Escapes

What a backslash and the marks after it mean, inside a character set and
outside.  Outside, digits refer to a group unless there are three octal ones or
the first is a zero; inside they are always octal.  ASCII letters without a
meaning are refused.
-/

namespace LogSieve.Pattern

/-- The class that an escape names. -/
def categoryOf? : Char → Option Member
  | 'd' => some (.category false .digit)
  | 'D' => some (.category true .digit)
  | 's' => some (.category false .blank)
  | 'S' => some (.category true .blank)
  | 'w' => some (.category false .word)
  | 'W' => some (.category true .word)
  | _ => none

/-- The anchor that an escape names. -/
def anchorOf? : Char → Option Anchor
  | 'A' => some .textStart
  | 'Z' => some .textEnd
  | 'b' => some .wordEdge
  | 'B' => some .noWordEdge
  | _ => none

/-- The control character, or the backslash, that an escape names. -/
def controlOf? : Char → Option Nat
  | 'a' => some 7
  | 'b' => some 8
  | 't' => some 9
  | 'n' => some 10
  | 'v' => some 11
  | 'f' => some 12
  | 'r' => some 13
  | '\\' => some 92
  | _ => none

/-- Whether a character is an octal digit. -/
def isOctal (c : Char) : Bool := '0' ≤ c && c ≤ '7'

/-- The number that octal digits write. -/
def octal (digits : Text) : Nat := Text.numberOf 8 (digits.map fun c => c.toNat - '0'.toNat)

/-- A code point written with exactly `count` hexadecimal digits. -/
def hexadecimalCode (count : Nat) : Read Nat := do
  let digits ← takeRun count fun c => (Text.hexValue? c).isSome
  match Text.hexadecimal? digits with
  | some code => if digits.length = count ∧ code < 0x110000 then return code else malformed
  | none => malformed

/-- A code point given by the name of its character, in braces. -/
def namedCode : Read Nat := do
  expect '\x7b'
  match codeOfName? (← takeName '\x7d') with
  | some code => return code
  | none => malformed

/-- An octal code point; it must fit into a byte. -/
def octalCode (digits : Text) : Read Nat :=
  if octal digits ≤ 255 then return octal digits else malformed

/-- The escapes that mean the same inside and outside of a set. -/
def commonEscape (char : Char) : Read Nat :=
  match char with
  | 'x' => hexadecimalCode 2
  | 'u' => hexadecimalCode 4
  | 'U' => hexadecimalCode 8
  | 'N' => namedCode
  | _ => if Text.isAsciiLetter char then malformed else return char.toNat

/-- An escape inside a set. -/
def setEscape (char : Char) : Read Member := do
  match controlOf? char, categoryOf? char with
  | some code, _ => return .code code
  | none, some member => return member
  | none, none =>
    if isOctal char then return .code (← octalCode (char :: (← takeRun 2 isOctal)))
    else if Text.isAsciiDigit char then malformed
    else return .code (← commonEscape char)

/-- An escape of a digit other than zero outside of a set: a code point in three octal digits, or
a reference to a group in one digit or two. -/
def digitEscape (char : Char) : Read Item := do
  match ← takeRun 1 Text.isAsciiDigit with
  | [second] =>
    let third ← if isOctal char && isOctal second then takeRun 1 isOctal else pure []
    if third.isEmpty then backReference ((Text.decimal? [char, second]).getD 0)
    else return .code false (← octalCode (char :: second :: third))
  | _ => backReference ((Text.decimal? [char]).getD 0)

/-- An escape outside of a set. -/
def itemEscape (char : Char) : Read Item := do
  match categoryOf? char, anchorOf? char, controlOf? char with
  | some member, _, _ => return .set false [member]
  | none, some anchor, _ => return .anchor anchor
  | none, none, some code => return .code false code
  | none, none, none =>
    if char = '0' then return .code false (octal (char :: (← takeRun 2 isOctal)))
    else if Text.isAsciiDigit char then digitEscape char
    else return .code false (← commonEscape char)

end LogSieve.Pattern
