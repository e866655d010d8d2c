import LogSieve.Association
import LogSieve.Number.Style
import LogSieve.Text.Quoted

/-!
# JSON values

A JSON value keeps the members of its objects in order, and integers apart from
other numbers.  Two texts of a value matter to a log line: the text of a scalar
as a field, and the text of any value as a message.
-/

namespace LogSieve.Json

/-- A JSON value. -/
inductive Value where
  | null
  | boolean (value : Bool)
  | integer (value : Int)
  | number (value : Binary64)
  | string (value : Text)
  | array (items : List Value)
  | object (members : List (Text × Value))

namespace Value

/-- The text of a value as a field; arrays, objects and null have none.  A number that is
integral is written as an integer. -/
def fieldText? : Value → Option Text
  | boolean value => some (if value then "true".toList else "false".toList)
  | integer value => some (Text.ofInt value)
  | number value =>
    match value.toInt? with
    | some whole => some (Text.ofInt whole)
    | none => some (value.text .standard)
  | string value => some value
  | null | array _ | object _ => none

/-- Whether a value says nothing: null, false, zero, or an empty text, array or object. -/
def isVoid : Value → Bool
  | null => true
  | boolean value => !value
  | integer value => value == 0
  | number value => value.isZero
  | string value => value.isEmpty
  | array items => items.isEmpty
  | object members => members.isEmpty

mutual
/-- A value as it is shown inside a message: texts are quoted, and the constants have capital
initials. -/
def shown : Value → Text
  | null => "None".toList
  | boolean value => if value then "True".toList else "False".toList
  | integer value => Text.ofInt value
  | number value => value.text .standard
  | string value => value.quoted
  | array items => '[' :: shownItems items ++ [']']
  | object members => '\x7b' :: shownMembers members ++ ['\x7d']

/-- The items of an array, separated by commas. -/
def shownItems : List Value → Text
  | [] => []
  | [item] => item.shown
  | item :: next :: rest => item.shown ++ ',' :: ' ' :: shownItems (next :: rest)

/-- The members of an object, separated by commas. -/
def shownMembers : List (Text × Value) → Text
  | [] => []
  | [(key, value)] => key.quoted ++ ':' :: ' ' :: value.shown
  | (key, value) :: next :: rest =>
    key.quoted ++ ':' :: ' ' :: value.shown ++ ',' :: ' ' :: shownMembers (next :: rest)
end

/-- A value as a message: a text stands as it is. -/
def messageText : Value → Text
  | string value => value
  | other => other.shown

/-- A text as a value. -/
def ofString (text : String) : Value := .string text.toList

/-- What may be missing, as a value. -/
def ofOption {α : Type} (write : α → Value) : Option α → Value
  | none => null
  | some x => write x

/-- An object with these members. -/
def ofMembers (members : List (String × Value)) : Value :=
  object (members.map fun (key, value) => (key.toList, value))

/-- An object whose members are texts. -/
def ofTexts (texts : Association Text Text) : Value :=
  object (texts.map fun (key, text) => (key, string text))

end Value

end LogSieve.Json
