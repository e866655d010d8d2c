import LogSieve.Json.Reader
import LogSieve.Record.Content
import LogSieve.Stack
import LogSieve.Text.Blank

/-!
# Embedded objects

A line may hold a JSON object.  It is looked for at the first opening brace of
the line and ends where the braces outside of strings balance; only then is it
read.  Text before the object introduces its message.
-/

namespace LogSieve.Embedded

/-- A text up to the closing brace that balances `depth` braces before it.  Braces between
quotation marks do not count, and a backslash hides the character after it. -/
def untilBalanced (depth : Nat) (inString escaped : Bool) : Text → Option Text
  | [] => none
  | c :: rest =>
    if escaped then (untilBalanced depth inString false rest).map (c :: ·)
    else if c = '\\' then (untilBalanced depth inString true rest).map (c :: ·)
    else if c = '"' then (untilBalanced depth (!inString) false rest).map (c :: ·)
    else if inString then (untilBalanced depth inString false rest).map (c :: ·)
    else if c = '\x7b' then (untilBalanced (depth + 1) inString false rest).map (c :: ·)
    else if c = '\x7d' then
      if depth = 1 then some [c]
      else (untilBalanced (depth - 1) inString false rest).map (c :: ·)
    else (untilBalanced depth inString false rest).map (c :: ·)

/-- The text before the first opening brace, and the text of the braces that balance. -/
def candidate? (line : Text) : Option (Text × Text) :=
  let before := line.takeWhile (· != '\x7b')
  match line.dropWhile (· != '\x7b') with
  | [] => none
  | fromBrace => (untilBalanced 0 false false fromBrace).map fun object => (before, object)

/-- The fields that the members of an object make: those whose value has a text. -/
def fieldsOf (members : Association Text Json.Value) : Fields :=
  members.filterMap fun (key, value) => value.fieldText?.map fun text => (key, text)

/-- The value of the first message key that says something. -/
def messageValue? (members : Association Text Json.Value) : Option Json.Value :=
  Content.messageKeys.findSome? fun key =>
    (Association.get? key members).filter fun value => !value.isVoid

/-- The content of a line that holds a JSON object, and `none` for any other line.  A number with
too many digits, or objects too deep in each other, are faults of the line. -/
def content? (stack : Stack) (line : Text) : Except Json.Fault (Option Content) :=
  match candidate? (Text.strip line) with
  | none => .ok none
  | some (before, object) =>
    match Json.Value.ofText stack.values object with
    | .error .malformed => .ok none
    | .error fault => .error fault
    | .ok (.object members) =>
      let message := match messageValue? members with
        | some value => Text.strip (Text.strip before ++ ' ' :: value.messageText)
        | none => line
      .ok (some ⟨message, fieldsOf members⟩)
    | .ok _ => .ok none

end LogSieve.Embedded
