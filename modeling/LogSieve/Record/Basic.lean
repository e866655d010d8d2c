import LogSieve.Association
import LogSieve.Calendar.Instant
import LogSieve.Text.Casing

/-!
# Records

A record is a log line together with what was found on it: a level, named
fields, an instant and a message.  The level is kept as the text that the source
of the line gave; the message is for display and takes no part in matching.
-/

namespace LogSieve

/-- The fields of a line: their names and texts in order. -/
abbrev Fields := Association Text Text

/-- A log line and what was found on it. -/
structure Record where
  raw : Text
  level : Option Text
  fields : Fields
  timestamp : Option Calendar.Instant
  lineNumber : Option Int
  message : Option Text
  deriving DecidableEq

/-- The value of the last field whose name is `key` when case is ignored. -/
def Fields.getIgnoringCase? (key : Text) (fields : Fields) : Option Text :=
  (fields.reverse.find? fun field => field.1.lower == key).map Prod.snd

/-- The value for the first of the keys that has one which is not empty; case is ignored. -/
def Fields.firstNonempty? (keys : List Text) (fields : Fields) : Option Text :=
  keys.findSome? fun key => (fields.getIgnoringCase? key).filter fun value => !value.isEmpty

end LogSieve
