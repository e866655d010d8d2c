import LogSieve.Severity

/-!
# Terms of a query

A query is a list of terms that a record must all satisfy.  A term asks for one
thing, its condition, or, when negated, for the opposite.
-/

namespace LogSieve.Query

/-- What a term asks of a record. -/
inductive Condition where
  /-- The field named `key` holds `value`. -/
  | field (key value : Text)
  /-- The field named `key` lies between two values. -/
  | range (key first last : Text)
  /-- The level of the record is one of these. -/
  | level (levels : List Severity)
  /-- The line matches a pattern. -/
  | pattern (body flags : Text)
  /-- The line holds a text. -/
  | text (value : Text)
  deriving DecidableEq

/-- A condition or its negation. -/
structure Term where
  negated : Bool
  condition : Condition
  deriving DecidableEq

/-- The term that asks for the opposite. -/
def Term.flipped (term : Term) : Term := { term with negated := !term.negated }

end LogSieve.Query

namespace LogSieve

/-- A query: its terms and the text that they were read from. -/
structure Query where
  raw : Text
  terms : List Query.Term
  deriving DecidableEq

/-- A query without terms, which every record satisfies. -/
def Query.isEmpty (query : Query) : Bool := query.terms.isEmpty

end LogSieve
