import LogSieve.Query.Lexeme
import LogSieve.Query.Term
import LogSieve.Text.Word

/-!
# Reading a query

A lexeme is read as the most specific form that fits it:

* `/body/flags`, where the last slash closes the pattern;
* `key:first..last`, a range, or a range of levels for the key `level`;
* `key:value`, a field, or one level for the key `level`;
* a text between quotation marks;
* any other text as it stands.

A dash in front negates each of them.  Keys are ASCII words; what follows the
colon is one line, and a line feed at its very end is not part of it.
-/

namespace LogSieve.Query

/-- The body and the flags of a pattern. -/
def patternOf? : Text → Option (Text × Text)
  | '/' :: rest => Text.splitLast '/' rest
  | _ => none

/-- The text without the line feed at its end, if it then is one line that is not empty. -/
def oneLine? (t : Text) : Option Text :=
  let line := match t.reverse with
    | '\n' :: before => before.reverse
    | _ => t
  if line.isEmpty || line.contains '\n' then none else some line

/-- The key and the value of `key:value`. -/
def keyed? (t : Text) : Option (Text × Text) :=
  let key := t.takeWhile Text.isAsciiWord
  match key, t.dropWhile Text.isAsciiWord with
  | _ :: _, ':' :: rest => (oneLine? rest).map fun value => (key, value)
  | _, _ => none

/-- The texts around the first two dots that something follows. -/
def splitDots : Text → Option (Text × Text)
  | '.' :: '.' :: c :: rest => some ([], c :: rest)
  | c :: rest => (splitDots rest).map fun (first, last) => (c :: first, last)
  | [] => none

/-- The two ends of a range, neither of them empty; the first one is as short as possible. -/
def rangeOf? : Text → Option (Text × Text)
  | c :: rest => (splitDots rest).map fun (first, last) => (c :: first, last)
  | [] => none

/-- The inside of a text that starts and ends with quotation marks, and any other text as it
stands; a single quotation mark is both start and end, and nothing is inside. -/
def unquote (t : Text) : Text :=
  if t.head? = some '"' ∧ t.getLast? = some '"' then t.tail.dropLast else t

/-- Whether a key is the one for levels. -/
def isLevelKey (key : Text) : Bool := key.lower == "level".toList

/-- The condition of `key:first..last`. -/
def rangeCondition (key first last : Text) : Condition :=
  match isLevelKey key, Severity.ofName? first, Severity.ofName? last with
  | true, some low, some high => .level (Severity.between low high)
  | _, _, _ => .range key first last

/-- The condition of `key:value`. -/
def fieldCondition (key value : Text) : Condition :=
  match isLevelKey key, Severity.ofName? value with
  | true, some level => .level [level]
  | _, _ => .field key value

/-- The condition of a lexeme without its dash. -/
def Condition.ofBody (body : Text) : Condition :=
  match patternOf? body with
  | some (inner, flags) => .pattern inner flags
  | none =>
    match keyed? body with
    | some (key, value) =>
      match rangeOf? value with
      | some (first, last) => rangeCondition key first last
      | none => fieldCondition key (unquote value)
    | none => .text (if body.length > 2 then unquote body else body)

/-- The term that a lexeme writes; only the empty text writes none. -/
def Term.ofLexeme? : Text → Option Term
  | [] => none
  | '-' :: body => some ⟨true, Condition.ofBody body⟩
  | body => some ⟨false, Condition.ofBody body⟩

end LogSieve.Query

namespace LogSieve

/-- The query that a text writes; every text writes one. -/
def Query.ofText (raw : Text) : Query :=
  ⟨raw, (Query.lexemes raw.strip).filterMap Query.Term.ofLexeme?⟩

end LogSieve
