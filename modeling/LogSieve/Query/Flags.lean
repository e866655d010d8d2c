import LogSieve.FaultKind
import LogSieve.Pattern.Search
import LogSieve.Query.Lexeme
import LogSieve.Stack

/-!
# Flags of a pattern term

The flags after the closing slash are single letters, each at most once.  Without
any flag a pattern ignores case; with flags it does so only if they say it.  The
letters `g` and `u` change nothing, and `y` ties the pattern to the start of the
line.
-/

namespace LogSieve.Query

/-- Why a pattern term cannot be used as a pattern. -/
inductive PatternFault where
  | unknownFlag (flag : Char)
  | repeatedFlag (flag : Char)
  | pattern (fault : Pattern.Fault)
  deriving DecidableEq

/-- The first fault of some flags, read from left to right; `all` are the flags of the term. -/
def flagFault? (all : Text) : Text → Option PatternFault
  | [] => none
  | flag :: rest =>
    if ¬ isPatternFlag flag then some (.unknownFlag flag)
    else if all.count flag > 1 then some (.repeatedFlag flag)
    else flagFault? all rest

/-- The options that flags stand for. -/
def optionsOfFlags (flags : Text) : Pattern.Options :=
  if flags.isEmpty then { Pattern.Options.none with ignoreCase := true }
  else { Pattern.Options.none with
    ignoreCase := flags.contains 'i'
    multiline := flags.contains 'm'
    dotAll := flags.contains 's' }

/-- A pattern that is ready to be searched for. -/
structure Search where
  program : List Pattern.Node
  /-- Whether the pattern must match at the start of the line. -/
  atStart : Bool

/-- The search that a body and flags describe. -/
def Search.ofPattern (stack : Stack) (body flags : Text) : Except PatternFault Search :=
  match flagFault? flags flags with
  | some fault => .error fault
  | none =>
    match Pattern.programOfText stack.groups (optionsOfFlags flags) body with
    | .ok program => .ok ⟨program, flags.contains 'y'⟩
    | .error fault => .error (.pattern fault)

/-- Whether a search finds something in a line. -/
def Search.finds (search : Search) (line : Text) : Bool :=
  let subject := line.toArray
  if search.atStart then Pattern.matchesAt search.program subject 0
  else Pattern.matchesIn search.program subject

/-- The kind of a fault of a pattern. -/
def PatternFault.kind : PatternFault → FaultKind
  | unknownFlag _ | repeatedFlag _ | pattern (.tooManyDigits _) | pattern .mixedClasses => .value
  | pattern .malformed => .pattern
  | pattern .countTooLarge => .overflow
  | pattern .tooDeep => .recursion

/-- What is said of a pattern that cannot be used; a broken grammar and groups too deep in each
other go without a text. -/
def PatternFault.message? : PatternFault → Option Text
  | unknownFlag flag => some ("Unknown regex flag '".toList ++ [flag, '\x27'])
  | repeatedFlag flag => some ("Repeated regex flag '".toList ++ [flag, '\x27'])
  | pattern .countTooLarge => some "the repetition number is too large".toList
  | pattern (.tooManyDigits count) => some (Text.digitsMessage count)
  | pattern .mixedClasses => some "ASCII and UNICODE flags are incompatible".toList
  | pattern .malformed | pattern .tooDeep => none

end LogSieve.Query
