import LogSieve.Record.Basic

/-!
# The content of a line

What a line says, before a level and an instant are looked for: a message and
fields.
-/

namespace LogSieve

/-- A message and fields. -/
structure Content where
  message : Text
  fields : Fields

namespace Content

/-- The keys of the message of a line, in order of preference. -/
def messageKeys : List Text := ["message".toList, "msg".toList, "text".toList]

end Content

end LogSieve
