import LogSieve.Text.Basic
import LogSieve.Text.Printable

/-!
# Quoted texts

Where a message shows a text as data, the text stands between quotation marks
and all that is not printable is written as an escape.  Single marks are used
unless the text holds a single mark and no double one.
-/

namespace LogSieve.Text

/-- A code point in hexadecimal, in lower case, with at least `width` digits. -/
def hexadecimal (width code : Nat) : Text := padStart width '0' (Nat.toDigits 16 code)

/-- A character as it is written between quotation marks of the given kind. -/
def quotedChar (mark c : Char) : Text :=
  if c = mark ∨ c = '\\' then ['\\', c]
  else if c = '\t' then ['\\', 't']
  else if c = '\n' then ['\\', 'n']
  else if c = '\r' then ['\\', 'r']
  else if isPrintable c then [c]
  else if c.toNat < 0x100 then '\\' :: 'x' :: hexadecimal 2 c.toNat
  else if c.toNat < 0x10000 then '\\' :: 'u' :: hexadecimal 4 c.toNat
  else '\\' :: 'U' :: hexadecimal 8 c.toNat

/-- The mark that a text is quoted with. -/
def quotationMark (t : Text) : Char :=
  if t.contains '\x27' && !t.contains '"' then '"' else '\x27'

/-- A text between quotation marks. -/
def quoted (t : Text) : Text :=
  let mark := quotationMark t
  mark :: t.flatMap (quotedChar mark) ++ [mark]

/-- Bytes between quotation marks, which a letter marks as bytes; those that are no ASCII characters
are written in hexadecimal. -/
def quotedBytes (bytes : List UInt8) : Text :=
  let t : Text := bytes.map fun byte => Char.ofNat byte.toNat
  let mark := quotationMark t
  let shown (c : Char) : Text :=
    if c.toNat < 0x80 then quotedChar mark c else '\\' :: 'x' :: hexadecimal 2 c.toNat
  'b' :: mark :: t.flatMap shown ++ [mark]

end LogSieve.Text
