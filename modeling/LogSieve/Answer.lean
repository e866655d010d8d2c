import LogSieve.Json.Value
import LogSieve.Report
import LogSieve.Search

/-!
# Answers

Callers are answered with data.  A term of a query is told with its badge and with
what the term itself is made of, a record without the fields that it does not have,
and a search with the number of its entries.
-/

namespace LogSieve

open Json (Value)
open Json.Value (ofMembers ofOption ofTexts)

/-! ## Queries -/

namespace Query

/-- What is told of a term: its badge and its condition. -/
structure Token where
  badge : Badge
  condition : Condition
  deriving DecidableEq

/-- What is told of the terms of a query, in order. -/
def tokens (query : Query) : List Token := query.terms.map fun term => ⟨term.badge, term.condition⟩

/-- A badge as the members of an object. -/
def Badge.members (badge : Badge) : List (String × Value) :=
  [("kind", .string badge.kind), ("negated", .boolean badge.negated),
    ("label", .string badge.label), ("description", .string badge.description),
    ("variant", .string badge.variant.name)]

/-- A condition as the members of an object. -/
def Condition.members : Condition → List (String × Value)
  | field key value => [("key", .string key), ("value", .string value)]
  | range key first last => [("key", .string key), ("start", .string first), ("end", .string last)]
  | level levels => [("levels", .array (levels.map fun level => .string level.name))]
  | pattern body flags => [("pattern", .string body), ("flags", .string flags)]
  | text value => [("value", .string value)]

/-- What is told of a term, as data. -/
def Token.data (token : Token) : Value :=
  ofMembers (token.badge.members ++ token.condition.members)

/-- What is told of a query, as data. -/
def data (query : Query) : Value :=
  ofMembers [("raw", .string query.raw), ("empty", .boolean query.isEmpty),
    ("tokens", .array (query.tokens.map Token.data))]

end Query

/-! ## Single lines -/

/-- A report as data. -/
def Report.data (report : Report) : Value :=
  ofMembers [("matched", .boolean report.isMatch), ("level", ofOption .string report.record.level),
    ("message", ofOption .string report.record.message),
    ("fields", ofTexts report.record.fields), ("filters", ofTexts report.filters),
    ("tokens", .array (report.query.tokens.map Query.Token.data))]

/-! ## Searches -/

/-- What is told of a record. -/
structure Entry where
  lineNumber : Option Int
  timestamp : Option Text
  level : Option Text
  message : Option Text
  /-- The fields, if there are any. -/
  fields : Option Fields
  /-- The line, if it is asked for. -/
  raw : Option Text
  deriving DecidableEq

/-- The entry of a record. -/
def Record.entry (includeRaw : Bool) (record : Record) : Entry where
  lineNumber := record.lineNumber
  timestamp := record.timestamp.map Calendar.Instant.iso
  level := record.level
  message := record.message
  fields := if record.fields.isEmpty then none else some record.fields
  raw := if includeRaw then some record.raw else none

/-- An entry as data. -/
def Entry.data (entry : Entry) : Value :=
  ofMembers ([("line_no", ofOption .integer entry.lineNumber),
      ("timestamp", ofOption .string entry.timestamp), ("level", ofOption .string entry.level),
      ("message", ofOption .string entry.message)] ++
    (entry.fields.map fun fields => ("fields", ofTexts fields)).toList ++
    (entry.raw.map fun raw => ("raw", Value.string raw)).toList)

namespace Search

/-- The answer to a search. -/
structure Answer where
  count : Nat
  entries : List Entry
  tokens : List Query.Token
  deriving DecidableEq

/-- The answer to a search, given the upper bound of its limit. -/
def answer (host : Host) (hardLimit : Int) (search : Search) : Except SearchFault Answer := do
  let records ← search.run host hardLimit
  .ok ⟨records.length, records.map (Record.entry search.includeRaw),
    (Query.ofText search.query).tokens⟩

/-- An answer as data. -/
def Answer.data (answer : Answer) : Value :=
  ofMembers [("count", .integer answer.count), ("entries", .array (answer.entries.map Entry.data)),
    ("tokens", .array (answer.tokens.map Query.Token.data))]

end Search

end LogSieve
