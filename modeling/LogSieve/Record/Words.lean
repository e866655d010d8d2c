import LogSieve.Text.Basic

/-!
# Words

A line is cut into words at blanks the way a command line is: single and double
quotation marks keep blanks in a word, a backslash takes the next character as it
is, and between double marks it does so for a double mark and a backslash only.
The marks and the backslashes that did their work are not part of the word.
-/

namespace LogSieve.Words

/-- Where the cutting of a line stands. -/
inductive Place where
  /-- Between two words. -/
  | between
  /-- In a word, outside of quotation marks. -/
  | inWord
  /-- After a backslash outside of quotation marks. -/
  | escaped
  /-- Between two quotation marks of this kind. -/
  | quoted (mark : Char)
  /-- After a backslash between double quotation marks. -/
  | escapedInQuotes
  deriving DecidableEq

/-- The blanks that separate words. -/
def isGap (c : Char) : Bool := c == ' ' || c == '\t' || c == '\r' || c == '\n'

/-- The quotation marks. -/
def isMark (c : Char) : Bool := c == '\x27' || c == '"'

/-- The words of the rest of a line; `held` is the current word so far, last character first.
There are none if the line ends between quotation marks or after a backslash. -/
def cut (place : Place) (held : Text) : Text → Option (List Text)
  | [] =>
    match place with
    | .between => some []
    | .inWord => some [held.reverse]
    | .escaped | .quoted _ | .escapedInQuotes => none
  | c :: rest =>
    match place with
    | .between =>
      if isGap c then cut .between [] rest
      else if isMark c then cut (.quoted c) [] rest
      else if c = '\\' then cut .escaped [] rest
      else cut .inWord [c] rest
    | .inWord =>
      if isGap c then (cut .between [] rest).map (held.reverse :: ·)
      else if isMark c then cut (.quoted c) held rest
      else if c = '\\' then cut .escaped held rest
      else cut .inWord (c :: held) rest
    | .escaped => cut .inWord (c :: held) rest
    | .quoted mark =>
      if c = mark then cut .inWord held rest
      else if c = '\\' ∧ mark = '"' then cut .escapedInQuotes held rest
      else cut (.quoted mark) (c :: held) rest
    | .escapedInQuotes =>
      if c = '\\' ∨ c = '"' then cut (.quoted '"') (c :: held) rest
      else cut (.quoted '"') (c :: '\\' :: held) rest

/-- The words of a line, if its quotation marks are balanced. -/
def ofLine? (line : Text) : Option (List Text) := cut .between [] line

end LogSieve.Words
