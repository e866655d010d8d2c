import LogSieve.Query.Badge
import LogSieve.Query.FieldFilter
import LogSieve.Query.Matching
import LogSieve.Record.OfLine

/-!
# Reports on single lines

A report says whether one line matches a query, what was found on the line, and
which filters would select the values of its fields.
-/

namespace LogSieve

/-- The outcome of matching one line. -/
structure Report where
  isMatch : Bool
  record : Record
  /-- For each field that can be written as a filter, its name and the filter. -/
  filters : Association Text Text
  query : Query

/-- The filters that select the fields of a line; fields that cannot be written are left out. -/
def Fields.filters (fields : Fields) : Association Text Text :=
  fields.filterMap fun (key, value) =>
    match Query.fieldFilter key value with
    | .ok filter => some (key, filter)
    | .error _ => none

/-- The report on a line. -/
def Report.ofLine (stack : Stack) (query line : Text) (level : Option Text) :
    Except LineFault Report := do
  let query := Query.ofText query
  let record ← Record.ofLine stack line none level
  .ok ⟨query.holds stack record, record, record.fields.filters, query⟩

end LogSieve
