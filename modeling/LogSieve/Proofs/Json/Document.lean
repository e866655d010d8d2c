import LogSieve.Json.Reader

/-!
# Documents

A document is a JSON value as someone who writes it has it: the members of an object
stand in the order of writing, and a key may come twice.  It has a text, in ASCII
only, and a value, in which of the members with one key the last one is left.
-/

namespace LogSieve.Json

/-- A JSON value that is to be written, without fractions and exponents. -/
inductive Document where
  | null
  | boolean (value : Bool)
  | integer (value : Int) (isShort : (Text.ofNat value.natAbs).length ≤ digitLimit)
  | string (value : Text)
  | array (items : List Document)
  | object (members : List (Text × Document))

/-! ## Texts -/

/-- A code unit of sixteen bits as an escape with four hexadecimal digits. -/
def escapedUnit (unit : Nat) : Text :=
  ['\\', 'u', Nat.digitChar (unit / 4096), Nat.digitChar (unit / 256 % 16),
    Nat.digitChar (unit / 16 % 16), Nat.digitChar (unit % 16)]

/-- A character as it is written in a string.  What is not printable ASCII is escaped, beyond the
first 65536 code points by a pair of surrogates. -/
def escapedChar (c : Char) : Text :=
  if c = '"' then ['\\', '"']
  else if c = '\\' then ['\\', '\\']
  else if c = '\n' then ['\\', 'n']
  else if c = '\r' then ['\\', 'r']
  else if c = '\t' then ['\\', 't']
  else if c = '\x0c' then ['\\', 'f']
  else if c = '\x08' then ['\\', 'b']
  else if 32 ≤ c.toNat ∧ c.toNat < 127 then [c]
  else if c.toNat < 0x10000 then escapedUnit c.toNat
  else
    escapedUnit (0xD800 + (c.toNat - 0x10000) / 0x400) ++
      escapedUnit (0xDC00 + (c.toNat - 0x10000) % 0x400)

/-- A string between its quotation marks. -/
def writtenString (t : Text) : Text := '"' :: t.flatMap escapedChar ++ ['"']

namespace Document

mutual
/-- The text of a document. -/
def written : Document → Text
  | null => "null".toList
  | boolean value => if value then "true".toList else "false".toList
  | integer value _ => Text.ofInt value
  | string value => writtenString value
  | array items => '[' :: writtenItems items ++ [']']
  | object members => '\x7b' :: writtenMembers members ++ ['\x7d']

/-- The items of an array, separated by commas. -/
def writtenItems : List Document → Text
  | [] => []
  | [item] => item.written
  | item :: next :: rest => item.written ++ ',' :: ' ' :: writtenItems (next :: rest)

/-- The members of an object, separated by commas. -/
def writtenMembers : List (Text × Document) → Text
  | [] => []
  | [(key, item)] => writtenString key ++ ':' :: ' ' :: item.written
  | (key, item) :: next :: rest =>
    writtenString key ++ ':' :: ' ' :: (item.written ++ ',' :: ' ' :: writtenMembers (next :: rest))
end

/-! ## Values -/

mutual
/-- The value of a document: of the members with one key the last one is left, in the place of the
first one. -/
def value : Document → Value
  | null => .null
  | boolean value => .boolean value
  | integer value _ => .integer value
  | string value => .string value
  | array items => .array (itemValues items)
  | object members => .object (Association.ofPairs (memberValues members))

/-- The values of the items of an array. -/
def itemValues : List Document → List Value
  | [] => []
  | item :: rest => item.value :: itemValues rest

/-- The values of the members of an object. -/
def memberValues : List (Text × Document) → List (Text × Value)
  | [] => []
  | (key, item) :: rest => (key, item.value) :: memberValues rest
end

mutual
/-- How deep arrays and objects lie in each other. -/
def depth : Document → Nat
  | null | boolean _ | integer .. | string _ => 0
  | array items => itemsDepth items + 1
  | object members => membersDepth members + 1

/-- The depth of the deepest item. -/
def itemsDepth : List Document → Nat
  | [] => 0
  | item :: rest => max item.depth (itemsDepth rest)

/-- The depth of the deepest member. -/
def membersDepth : List (Text × Document) → Nat
  | [] => 0
  | (_, item) :: rest => max item.depth (membersDepth rest)
end

/-- The text of a string, an integer or a truth value as a field. -/
def fieldText? : Document → Option Text
  | boolean true => some "true".toList
  | boolean false => some "false".toList
  | integer value _ => some (Text.ofInt value)
  | string value => some value
  | null | array _ | object _ => none

theorem memberValues_eq_map (members : List (Text × Document)) :
    memberValues members = members.map fun member => (member.1, member.2.value) := by
  induction members with
  | nil => rfl
  | cons member rest ih => rw [memberValues, ih, List.map_cons]

theorem fieldText?_value (document : Document) :
    document.value.fieldText? = document.fieldText? := by
  cases document with
  | boolean value => cases value <;> rfl
  | null | integer | string | array | object => rfl

end Document

end LogSieve.Json
