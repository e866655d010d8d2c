import LogSieve.FaultKind
import LogSieve.Text.Quoted
import LogSieve.Text.Word

/-!
# Writing field filters

A field of a line is turned into a query that selects its value.  Not every
field can be written that way: keys must be ASCII words, and a value must not be
empty nor hold a quotation mark, a backslash or two dots in a row.
-/

namespace LogSieve.Query

/-- Why a field cannot be written as a filter. -/
inductive FilterFault where
  | unusableKey (key : Text)
  | emptyValue (key : Text)
  | unusableValue (key value : Text)
  deriving DecidableEq

/-- Whether a value can stand in a query, with or without quotation marks. -/
def isWritable (value : Text) : Bool :=
  !value.contains '"' && !value.contains '\\' && !Text.occursIn "..".toList value

/-- Whether a value needs quotation marks. -/
def needsMarks (value : Text) : Bool :=
  value.any fun c => c == ' ' || c == '\t' || c == '/'

/-- The query that selects a value of a field. -/
def fieldFilter (key value : Text) : Except FilterFault Text :=
  if key.isEmpty || !key.all Text.isAsciiWord then .error (.unusableKey key)
  else if value.isEmpty then .error (.emptyValue key)
  else if !isWritable value then .error (.unusableValue key value)
  else if needsMarks value then .ok (key ++ ':' :: '"' :: value ++ ['"'])
  else .ok (key ++ ':' :: value)

/-- The kind of a fault of a field. -/
def FilterFault.kind (_ : FilterFault) : FaultKind := .value

/-- What is said of a field that cannot be written. -/
def FilterFault.message : FilterFault → Text
  | unusableKey key => "Field key cannot be used in a query: ".toList ++ key.quoted
  | emptyValue key => "Field ".toList ++ key.quoted ++ " has an empty value".toList
  | unusableValue key value =>
    "Field ".toList ++ key.quoted ++ " value cannot be written as a filter: ".toList ++
      value.quoted

end LogSieve.Query
