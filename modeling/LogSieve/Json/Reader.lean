import LogSieve.Json.Value
import LogSieve.Number.Literal

/-!
# Reading JSON

The reader follows the JSON grammar, with three words more for the numbers that
JSON does not know (`NaN`, `Infinity`, `-Infinity`).  Of a key that comes twice
the last value stays, in the first place.

There are three ways to fail.  A text that breaks the grammar is malformed; an
integer may have too many digits, and arrays and objects may lie too deep in
each other.  The latter two end the reading where they are met, whatever is
wrong further on.
-/

namespace LogSieve.Json

/-- Why a text was not read as a JSON value. -/
inductive Fault where
  | malformed
  | tooManyDigits (count : Nat)
  | tooDeep
  deriving DecidableEq

/-- The greatest number of digits of an integer. -/
def digitLimit : Nat := 4300

/-- Drops the blanks that JSON allows between its tokens. -/
def skipBlanks (text : Text) : Text :=
  text.dropWhile fun c => c == ' ' || c == '\t' || c == '\n' || c == '\r'

/-! ## Strings -/

/-- The character that a one-letter escape stands for. -/
def simpleEscape? : Char → Option Char
  | '"' => some '"'
  | '\\' => some '\\'
  | '/' => some '/'
  | 'b' => some '\x08'
  | 'f' => some '\x0c'
  | 'n' => some '\n'
  | 'r' => some '\r'
  | 't' => some '\t'
  | _ => none

/-- The code units of a string after its opening quotation mark, and the text after the closing
one.  Control characters must be escaped. -/
def stringCodes? : Text → Option (List Nat × Text)
  | [] => none
  | c :: rest =>
    if c = '"' then some ([], rest)
    else if c = '\\' then
      match rest with
      | 'u' :: h₃ :: h₂ :: h₁ :: h₀ :: after =>
        match Text.hexadecimal? [h₃, h₂, h₁, h₀] with
        | some code => (stringCodes? after).map fun (codes, tail) => (code :: codes, tail)
        | none => none
      | e :: after =>
        match simpleEscape? e with
        | some meant => (stringCodes? after).map fun (codes, tail) => (meant.toNat :: codes, tail)
        | none => none
      | [] => none
    else if c.toNat < 32 then none
    else (stringCodes? rest).map fun (codes, tail) => (c.toNat :: codes, tail)

/-- The text of code units: an escaped pair of surrogates is one character.  A surrogate on its own is
no character, so a text cannot keep it: it is replaced, and strings that differ only in such
surrogates become the same text. -/
def textOfCodes : List Nat → Text
  | [] => []
  | high :: low :: rest =>
    if 0xD800 ≤ high ∧ high < 0xDC00 ∧ 0xDC00 ≤ low ∧ low < 0xE000 then
      Char.ofNat (0x10000 + (high - 0xD800) * 0x400 + (low - 0xDC00)) :: textOfCodes rest
    else if 0xD800 ≤ high ∧ high < 0xE000 then '\uFFFD' :: textOfCodes (low :: rest)
    else Char.ofNat high :: textOfCodes (low :: rest)
  | [code] => [if 0xD800 ≤ code ∧ code < 0xE000 then '\uFFFD' else Char.ofNat code]

/-- A string after its opening quotation mark. -/
def readString (text : Text) : Except Fault (Text × Text) :=
  match stringCodes? text with
  | some (codes, rest) => .ok (textOfCodes codes, rest)
  | none => .error .malformed

/-! ## Numbers -/

/-- The value of an ASCII digit. -/
def digit? (c : Char) : Option Nat :=
  if Text.isAsciiDigit c then some (c.toNat - '0'.toNat) else none

/-- The integer part: a zero, or digits that do not start with one. -/
def integerPart? (text : Text) : Option (List Nat × Text) :=
  match text with
  | '0' :: rest => some ([0], rest)
  | _ =>
    match Number.digitRun digit? text with
    | ([], _) => none
    | run => some run

/-- The fraction: a point and at least one digit. -/
def fraction? : Text → Option (List Nat × Text)
  | '.' :: rest =>
    match Number.digitRun digit? rest with
    | ([], _) => none
    | run => some run
  | _ => none

/-- A number.  Without fraction and exponent it is an integer. -/
def readNumber (text : Text) : Except Fault (Value × Text) :=
  let (negative, unsigned) := match text with
    | '-' :: rest => (true, rest)
    | _ => (false, text)
  match integerPart? unsigned with
  | none => .error .malformed
  | some (whole, rest) =>
    match fraction? rest, Number.exponent? digit? ((fraction? rest).elim rest Prod.snd) with
    | none, none =>
      if whole.length > digitLimit then .error (.tooManyDigits whole.length)
      else
        let size := Int.ofNat (Text.numberOf 10 whole)
        .ok (.integer (if negative then -size else size), rest)
    | fraction, exponent =>
      let digits := fraction.elim [] Prod.fst
      let afterFraction := fraction.elim rest Prod.snd
      let literal : Number.Literal := ⟨negative, whole, digits, exponent.elim 0 Prod.fst⟩
      .ok (.number literal.toBinary64, exponent.elim afterFraction Prod.snd)

/-! ## Words and scalars -/

/-- The words that stand for a value of their own. -/
def words : List (Text × Value) :=
  [("null".toList, .null), ("true".toList, .boolean true), ("false".toList, .boolean false),
    ("NaN".toList, .number .nan), ("Infinity".toList, .number (.infinite false)),
    ("-Infinity".toList, .number (.infinite true))]

/-- The word at the start of a text, and the rest. -/
def word? (text : Text) : Option (Value × Text) :=
  words.findSome? fun (word, value) =>
    if word.isPrefixOf text then some (value, text.drop word.length) else none

/-- A value that is neither an array nor an object. -/
def readScalar (text : Text) : Except Fault (Value × Text) :=
  match word? text with
  | some read => .ok read
  | none =>
    match text with
    | '"' :: rest => (readString rest).map fun (value, after) => (.string value, after)
    | _ => readNumber text

/-! ## Arrays, objects and values -/

/-- The items of an array from the first one on, up to the closing bracket. -/
def readItems (read : Text → Except Fault (Value × Text)) :
    Nat → Text → Except Fault (List Value × Text)
  | 0, _ => .error .malformed
  | fuel + 1, text => do
    let (item, rest) ← read text
    match skipBlanks rest with
    | ']' :: after => .ok ([item], after)
    | ',' :: after =>
      let (items, tail) ← readItems read fuel (skipBlanks after)
      .ok (item :: items, tail)
    | _ => .error .malformed

/-- A key with its colon, and what follows up to the value. -/
def readKey : Text → Except Fault (Text × Text)
  | '"' :: rest => do
    let (key, after) ← readString rest
    match skipBlanks after with
    | ':' :: tail => .ok (key, skipBlanks tail)
    | _ => .error .malformed
  | _ => .error .malformed

/-- The members of an object from the first one on, up to the closing brace. -/
def readMembers (read : Text → Except Fault (Value × Text)) :
    Nat → Text → Except Fault (List (Text × Value) × Text)
  | 0, _ => .error .malformed
  | fuel + 1, text => do
    let (key, afterKey) ← readKey text
    let (value, rest) ← read afterKey
    match skipBlanks rest with
    | '\x7d' :: after => .ok ([(key, value)], after)
    | ',' :: after =>
      let (members, tail) ← readMembers read fuel (skipBlanks after)
      .ok ((key, value) :: members, tail)
    | _ => .error .malformed

/-- The value at the start of a text whose arrays and objects lie at most `depth` deep, and the
rest.  A text has fewer items and members than characters, so its length bounds the loops. -/
def readValue (depth : Nat) (text : Text) : Except Fault (Value × Text) :=
  match depth, text with
  | 0, '[' :: _ => .error .tooDeep
  | 0, '\x7b' :: _ => .error .tooDeep
  | depth + 1, '[' :: rest =>
    match skipBlanks rest with
    | ']' :: after => .ok (.array [], after)
    | inner => do
      let (items, after) ← readItems (readValue depth) inner.length inner
      .ok (.array items, after)
  | depth + 1, '\x7b' :: rest =>
    match skipBlanks rest with
    | '\x7d' :: after => .ok (.object [], after)
    | inner => do
      let (members, after) ← readMembers (readValue depth) inner.length inner
      .ok (.object (Association.ofPairs members), after)
  | _, text => readScalar text

/-- The value that a whole text writes, with blanks around it; its arrays and objects lie at most
`depth` deep. -/
def Value.ofText (depth : Nat) (text : Text) : Except Fault Value := do
  let (value, rest) ← readValue depth (skipBlanks text)
  match skipBlanks rest with
  | [] => .ok value
  | _ => .error .malformed

end LogSieve.Json
