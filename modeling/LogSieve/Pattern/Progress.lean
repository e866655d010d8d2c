import LogSieve.Association
import LogSieve.Pattern.Mark
import LogSieve.Pattern.Tree

/-!
# The progress of reading a pattern

What the reader of a pattern knows at each mark: the marks to come, the options
of the whole pattern, the groups met so far.  A group that has been opened and
not yet closed has no width, and nothing may refer to it.
-/

namespace LogSieve.Pattern

/-- How far the reading of a pattern has come. -/
structure Progress where
  /-- The marks to come. -/
  rest : List Mark
  /-- Whether a lone backslash follows the last mark. -/
  lone : Bool
  /-- The options of the whole pattern. -/
  options : Options
  /-- The widths of the groups, in order, as far as they are closed. -/
  widths : List (Option Width)
  /-- The numbers of the named groups. -/
  names : Association Text Nat
  /-- Inside a look behind, the number of the groups from before it, plus one. -/
  beforeLook : Option Nat
  /-- The groups that conditionals refer to by number. -/
  awaited : List Nat

/-- A step of reading. -/
abbrev Read := StateT Progress (Except Fault)

/-- A pattern that breaks the grammar here. -/
def malformed {α : Type} : Read α := throw .malformed

/-- The number that the next group gets. -/
def Progress.groupCount (progress : Progress) : Nat := progress.widths.length + 1

/-- Goes on at the given marks, which must not begin with the lone backslash. -/
def goTo (marks : List Mark) : Read Unit := do
  let progress ← get
  if marks.isEmpty && progress.lone then malformed else set { progress with rest := marks }

/-- The next mark, which stays. -/
def peek : Read (Option Mark) := do return (← get).rest.head?

/-- The next mark, which is passed. -/
def take : Read (Option Mark) := do
  match (← get).rest with
  | [] => return none
  | mark :: rest =>
    goTo rest
    return some mark

/-- The next mark, without which the pattern breaks off. -/
def takeSome : Read Mark := do
  match ← take with
  | some mark => return mark
  | none => malformed

/-- Passes the next mark if it is this character. -/
def accept (char : Char) : Read Bool := do
  match (← get).rest with
  | .plain c :: rest =>
    if c = char then
      goTo rest
      return true
    else return false
  | _ => return false

/-- Passes this character, which must come next. -/
def expect (char : Char) : Read Unit := do
  if ← accept char then return () else malformed

/-- The plain characters of a class at the start of some marks, at most `count`, and the rest. -/
def plainRun (admits : Char → Bool) : Nat → List Mark → Text × List Mark
  | count + 1, .plain c :: rest =>
    if admits c then let (run, after) := plainRun admits count rest; (c :: run, after)
    else ([], .plain c :: rest)
  | _, marks => ([], marks)

/-- Passes plain characters of a class, at most `count`. -/
def takeRun (count : Nat) (admits : Char → Bool) : Read Text := do
  let (run, after) := plainRun admits count (← get).rest
  goTo after
  return run

/-- Passes as many ASCII digits as come next. -/
def takeDigits : Read Text := do
  takeRun (← get).rest.length fun c => '0' ≤ c && c ≤ '9'

/-- The text of the marks before the first plain `stop`, and the marks after it. -/
def textUntil (stop : Char) : List Mark → Option (Text × List Mark)
  | [] => none
  | mark :: rest =>
    if mark = .plain stop then some ([], rest)
    else (textUntil stop rest).map fun (text, after) => (mark.text ++ text, after)

/-- Passes a name and the character after it; the name must not be empty. -/
def takeName (stop : Char) : Read Text := do
  match textUntil stop (← get).rest with
  | some (c :: name, after) =>
    goTo after
    return c :: name
  | _ => malformed

/-- Opens a group and gives its number. -/
def openGroup (name : Option Text) : Read Nat := do
  let progress ← get
  let number := progress.groupCount
  let names ← match name with
    | none => pure progress.names
    | some name =>
      if (Association.get? name progress.names).isSome then malformed
      else pure (Association.put name number progress.names)
  set { progress with widths := progress.widths ++ [none], names := names }
  return number

/-- Closes a group, whose width is now known. -/
def closeGroup (number : Nat) (width : Width) : Read Unit :=
  modify fun progress => { progress with widths := progress.widths.set (number - 1) (some width) }

/-- The width of a closed group. -/
def Progress.closedWidth? (progress : Progress) (number : Nat) : Option Width :=
  if number = 0 then none else (progress.widths[number - 1]?).join

/-- Inside a look behind, only groups that were closed before it can be referred to. -/
def checkLookBehind (number : Nat) : Read Unit := do
  let progress ← get
  match progress.beforeLook with
  | none => return ()
  | some before =>
    if (progress.closedWidth? number).isSome && number < before then return () else malformed

/-- The item that stands for the text of a group again. -/
def backReference (number : Nat) : Read Item := do
  match (← get).closedWidth? number with
  | some width =>
    checkLookBehind number
    return .again number width
  | none => malformed

end LogSieve.Pattern
