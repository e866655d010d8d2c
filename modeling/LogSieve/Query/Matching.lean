import LogSieve.Query.Flags
import LogSieve.Query.LeadingNumber
import LogSieve.Query.Reading
import LogSieve.Record.Basic

/-!
# Matching records

A record matches a query if it satisfies every term.  Texts are compared without
regard to case.  A range is numeric if the value and both ends begin with a
number and otherwise goes by the order of texts.  A pattern that cannot be used
is looked for as a text.
-/

namespace LogSieve.Text

/-- Whether a text comes before another one, character by character, or is equal to it. -/
def atMost : Text → Text → Bool
  | [], _ => true
  | _ :: _, [] => false
  | a :: first, b :: second => a < b || (a == b && atMost first second)

end LogSieve.Text

namespace LogSieve.Query

/-- Whether a value lies in a range. -/
def inRange (first last value : Text) : Bool :=
  match leadingNumber? value, leadingNumber? first, leadingNumber? last with
  | some value, some first, some last => first.atMost value && value.atMost last
  | _, _, _ => first.atMost value && value.atMost last

/-- Whether a line matches a pattern. -/
def patternMatches (stack : Stack) (body flags line : Text) : Bool :=
  match Search.ofPattern stack body flags with
  | .ok search => search.finds line
  | .error _ => Text.holdsIgnoringCase line body

/-- Whether a record meets a condition. -/
def Condition.holds (stack : Stack) (record : Record) : Condition → Bool
  | .field key value =>
    (Association.get? key record.fields).any fun text => Text.holdsIgnoringCase text value
  | .range key first last => (Association.get? key record.fields).any (inRange first last)
  | .level levels => (record.level.bind Severity.ofName?).any levels.contains
  | .pattern body flags => patternMatches stack body flags record.raw
  | .text value => Text.holdsIgnoringCase record.raw value

/-- Whether a record satisfies a term. -/
def Term.holds (stack : Stack) (record : Record) (term : Term) : Bool :=
  term.condition.holds stack record != term.negated

@[simp] theorem Term.holds_flipped (stack : Stack) (record : Record) (term : Term) :
    term.flipped.holds stack record = !term.holds stack record := by
  cases term with
  | mk negated condition => cases negated <;> simp [flipped, holds]

end LogSieve.Query

namespace LogSieve

/-- Whether a record satisfies every term of a query. -/
def Query.holds (query : Query) (stack : Stack) (record : Record) : Bool :=
  query.terms.all (Query.Term.holds stack record)

/-- The records that satisfy a query, in order. -/
def Query.select (query : Query) (stack : Stack) (records : List Record) : List Record :=
  records.filter (query.holds stack)

end LogSieve
