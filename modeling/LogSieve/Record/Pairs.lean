import LogSieve.Record.Content
import LogSieve.Record.Words

/-!
# Key and value pairs

A line without an object may hold pairs `key=value`.  Every word with an equals
sign that is not its first character is a pair, the value being all that follows
the first such sign.  A line whose quotation marks are not balanced has no pairs.
-/

namespace LogSieve.Pairs

/-- The pair that a word writes. -/
def ofWord? (word : Text) : Option (Text × Text) :=
  (Text.splitFirst '=' word).filter fun pair => !pair.1.isEmpty

/-- The pairs of a line. -/
def ofLine (line : Text) : Fields :=
  match Words.ofLine? line with
  | some words => Association.ofPairs (words.filterMap ofWord?)
  | none => []

/-- The content of a line: its pairs, and the message that one of them gives or else the line. -/
def content (line : Text) : Content :=
  let fields := ofLine line
  ⟨(fields.firstNonempty? Content.messageKeys).getD line, fields⟩

end LogSieve.Pairs
