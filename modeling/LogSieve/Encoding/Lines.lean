import LogSieve.Text.Basic

/-!
# Lines of a text

A line ends at a line feed, at a carriage return, or at both in this order;
nothing else ends a line.  Text after the last end is a line too.  When the
reading of a text was cut short, only lines whose end was seen are known, and a
carriage return at the very end is not known to be one.
-/

namespace LogSieve.Encoding

/-- What is known after some characters of a text. -/
structure LineScan where
  /-- The lines so far, the latest first. -/
  done : List Text
  /-- The characters of the current line, the latest first. -/
  held : Text
  /-- Whether the last character was a carriage return. -/
  returned : Bool

namespace LineScan

/-- What is known at the start. -/
def start : LineScan := ⟨[], [], false⟩

/-- Reads one character. -/
def step (scan : LineScan) (c : Char) : LineScan :=
  if c = '\n' then
    if scan.returned then { scan with returned := false }
    else ⟨scan.held.reverse :: scan.done, [], false⟩
  else if c = '\r' then ⟨scan.held.reverse :: scan.done, [], true⟩
  else ⟨scan.done, c :: scan.held, false⟩

/-- What is known after a text. -/
def ofText (text : Text) : LineScan := text.foldl step start

/-- All lines, at the end of the text. -/
def lines (scan : LineScan) : List Text :=
  (if scan.held.isEmpty then scan.done else scan.held.reverse :: scan.done).reverse

/-- The lines whose end was seen. -/
def finished (scan : LineScan) : List Text :=
  (if scan.returned then scan.done.tail else scan.done).reverse

end LineScan

/-- The lines of a text that is `whole` or was cut short. -/
def linesOfText (whole : Bool) (text : Text) : List Text :=
  let scan := LineScan.ofText text
  if whole then scan.lines else scan.finished

/-- A text with a line feed at the end of each line that has an end. -/
def unifyLineEnds (text : Text) : Text :=
  (text.foldl (fun (unified, returned) c =>
    if c = '\n' then (if returned then unified else '\n' :: unified, false)
    else if c = '\r' then ('\n' :: unified, true)
    else (c :: unified, false)) (([] : Text), false)).1.reverse

end LogSieve.Encoding
