import LogSieve.Text.Basic
import LogSieve.Text.Ranges

/-!
# Blank characters and stripping

A character is blank if it is a space, a tab, a line or paragraph end, or one of
the four information separators.  Stripping removes blank characters at the
ends of a text and nothing else.
-/

namespace LogSieve.Text

/-- The blank characters beyond ASCII. -/
def blankRanges : Ranges := [
    (0x0085, 0x0085), (0x00A0, 0x00A0), (0x1680, 0x1680), (0x2000, 0x200A),
    (0x2028, 0x2029), (0x202F, 0x202F), (0x205F, 0x205F), (0x3000, 0x3000)]

/-- Spaces, tabs, line and paragraph ends and the information separators. -/
def isBlank (c : Char) : Bool :=
  if c.toNat < 128 then c == ' ' || (9 ≤ c.toNat && c.toNat ≤ 13) || (28 ≤ c.toNat && c.toNat ≤ 31)
  else blankRanges.holds c.toNat

/-- The text without the blank characters at its start. -/
def stripStart (t : Text) : Text := t.dropWhile isBlank

/-- The text without the blank characters at its end. -/
def stripEnd (t : Text) : Text := (t.reverse.dropWhile isBlank).reverse

/-- The text without the blank characters at its two ends. -/
def strip (t : Text) : Text := stripEnd (stripStart t)

/-- Whether every character of a text is blank; so it is for the empty text. -/
def allBlank (t : Text) : Bool := t.all isBlank

end LogSieve.Text
