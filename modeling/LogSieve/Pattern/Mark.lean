import LogSieve.Text.Basic

/-!
# The marks of a pattern

A pattern is read mark by mark: a mark is a character, or a backslash and the
character after it.  A backslash at the very end of a pattern is an error as
soon as it comes next.
-/

namespace LogSieve.Pattern

/-- A character of a pattern, or an escaped one. -/
inductive Mark where
  | plain (char : Char)
  | escaped (char : Char)
  deriving DecidableEq

/-- The text that a mark was written as. -/
def Mark.text : Mark → Text
  | plain char => [char]
  | escaped char => ['\\', char]

/-- The marks of a pattern, and whether a lone backslash ends it. -/
def marks : Text → List Mark × Bool
  | [] => ([], false)
  | '\\' :: c :: rest => let (others, lone) := marks rest; (.escaped c :: others, lone)
  | ['\\'] => ([], true)
  | c :: rest => let (others, lone) := marks rest; (.plain c :: others, lone)

end LogSieve.Pattern
