import LogSieve.Text.Basic

/-!
# Kinds of faults

Callers do not see a fault itself but its kind and what is said of it.  Faults of
different parts share the kinds: whatever the part, a value that is refused is a
fault of values, and a line that is too deep for the stack is one of recursion.
-/

namespace LogSieve

/-- The kinds of faults that callers tell apart. -/
inductive FaultKind where
  /-- A value is refused. -/
  | value
  | overflow
  | recursion
  /-- A pattern is not one. -/
  | pattern
  | fileNotFound
  /-- The system refuses a path. -/
  | system
  /-- A name stands for nothing. -/
  | lookup
  | badGzip
  /-- A file ends too early. -/
  | endOfFile
  | decompression
  | decoding
  /-- What the program is run with is not known. -/
  | runtime
  deriving DecidableEq

/-- The name under which callers know a kind. -/
def FaultKind.name : FaultKind → Text
  | value => "ValueError".toList
  | overflow => "OverflowError".toList
  | recursion => "RecursionError".toList
  | pattern => "re.error".toList
  | fileNotFound => "FileNotFoundError".toList
  | system => "OSError".toList
  | lookup => "LookupError".toList
  | badGzip => "BadGzipFile".toList
  | endOfFile => "EOFError".toList
  | decompression => "error".toList
  | decoding => "UnicodeDecodeError".toList
  | runtime => "RuntimeError".toList

end LogSieve
