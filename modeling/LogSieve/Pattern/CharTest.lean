import LogSieve.Pattern.Tree
import LogSieve.Text.Blank
import LogSieve.Text.Casing
import LogSieve.Text.Digit
import LogSieve.Text.Word

/-!
# Tests of single characters

What a pattern asks of one character.  When case is ignored, the character is
brought to lower case and compared with the small letters that belong to the
letters of the pattern: their own lower case, and every small letter that shares
a capital with it.
-/

namespace LogSieve.Pattern

/-- How letters of different case are compared. -/
inductive Folding where
  /-- As they are. -/
  | exact
  /-- ASCII letters in lower case. -/
  | ascii
  /-- All letters in lower case. -/
  | full
  deriving DecidableEq

/-- The folding that options ask for. -/
def Options.folding (options : Options) : Folding :=
  if !options.ignoreCase then .exact else if options.ascii then .ascii else .full

/-- The lower case of a code point, as one code point. -/
def lowerCode (code : Nat) : Nat :=
  if code < 128 then (if 65 ≤ code ∧ code ≤ 90 then code + 32 else code)
  else if code = 0x130 then 0x69
  else Text.mapCode code Text.lowerRuns

/-- The upper case of a code point, as one code point. -/
def upperCode (code : Nat) : Nat :=
  if code < 128 then (if 97 ≤ code ∧ code ≤ 122 then code - 32 else code)
  else match Text.upperExpansions.lookup code with
    | some (first :: _) => first
    | _ => Text.mapCode code Text.upperRuns

/-- A code point brought to the form in which it is compared. -/
def Folding.fold : Folding → Nat → Nat
  | exact, code => code
  | ascii, code => if 65 ≤ code ∧ code ≤ 90 then code + 32 else code
  | full, code => lowerCode code

/-- The groups of small letters that share a capital letter. -/
def sameCapital : List (List Nat) := [
    [0x0069, 0x0131], [0x0073, 0x017F], [0x00B5, 0x03BC], [0x0345, 0x03B9, 0x1FBE],
    [0x0390, 0x1FD3], [0x03B0, 0x1FE3], [0x03B2, 0x03D0], [0x03B5, 0x03F5], [0x03B8, 0x03D1],
    [0x03BA, 0x03F0], [0x03C0, 0x03D6], [0x03C1, 0x03F1], [0x03C2, 0x03C3], [0x03C6, 0x03D5],
    [0x0432, 0x1C80], [0x0434, 0x1C81], [0x043E, 0x1C82], [0x0441, 0x1C83],
    [0x0442, 0x1C84, 0x1C85], [0x044A, 0x1C86], [0x0463, 0x1C87], [0x1C88, 0xA64B],
    [0x1E61, 0x1E9B], [0xFB05, 0xFB06]]

/-- A small letter and those that share its capital. -/
def relatives (code : Nat) : List Nat := (sameCapital.find? (·.contains code)).getD [code]

/-- The code points of which a code point is the lower case. -/
def raised (code : Nat) : List Nat :=
  let own := if lowerCode code = code then [code] else []
  let ascii := if 97 ≤ code ∧ code ≤ 122 then [code - 32] else []
  let dotted := if code = 0x69 then [0x130] else []
  own ++ ascii ++ dotted ++ Text.lowerRuns.filterMap fun (first, last, step, shift) =>
    let source := Int.ofNat code - shift
    if Int.ofNat first ≤ source ∧ source ≤ Int.ofNat last ∧ (source.toNat - first) % step = 0 then
      some source.toNat
    else none

/-- Whether a code point lies in a range. -/
def inRange (first last code : Nat) : Bool := first ≤ code && code ≤ last

/-- The last code point of the basic plane. -/
def basicPlaneEnd : Nat := 0xFFFF

/-- Whether a folded code point is the folded form of a letter of the pattern, or a relative. -/
def Folding.meets : Folding → Nat → Nat → Bool
  | full, letter, folded => (relatives (lowerCode letter)).contains folded
  | folding, letter, folded => folding.fold letter == folded

/-- Whether a folded code point belongs to a range.  Beyond the basic plane a letter belongs to a
range if its lower or its upper case does. -/
def Folding.meetsRange (folding : Folding) (first last folded : Nat) : Bool :=
  match folding with
  | exact => inRange first last folded
  | ascii =>
    inRange first last folded ||
      (inRange 97 122 folded && inRange first last (folded - 32)) ||
      (last > basicPlaneEnd && inRange first last (upperCode folded))
  | full =>
    let basicLast := min last basicPlaneEnd
    (inRange first basicLast folded && lowerCode folded == folded) ||
      ((relatives folded).any fun letter => (raised letter).any (inRange first basicLast)) ||
      (last > basicPlaneEnd &&
        (inRange first last folded || inRange first last (upperCode folded)))

/-- Whether a character has a property, by ASCII or by all writing systems. -/
def Category.holds (ascii : Bool) (category : Category) (char : Char) : Bool :=
  match category with
  | digit => if ascii then Text.isAsciiDigit char else Text.isDigit char
  | word => if ascii then Text.isAsciiWord char else Text.isWord char
  | blank =>
    if ascii then char == ' ' || (9 ≤ char.toNat && char.toNat ≤ 13) else Text.isBlank char

/-- Whether a folded code point is meant by a member of a set.  A letter beyond the basic plane
stands for its lower case only. -/
def Member.holds (folding : Folding) (ascii : Bool) (folded : Nat) : Member → Bool
  | code letter =>
    if letter ≤ basicPlaneEnd then folding.meets letter folded else letter == folded
  | range first last => folding.meetsRange first last folded
  | category negated named => named.holds ascii (Char.ofNat folded) != negated

/-- A test of one character. -/
inductive CharTest where
  | code (negated : Bool) (code : Nat) (folding : Folding)
  | any (lineFeed : Bool)
  | set (negated : Bool) (members : List Member) (folding : Folding) (ascii : Bool)

/-- Whether a character passes a test. -/
def CharTest.holds (char : Char) : CharTest → Bool
  | code negated letter folding => folding.meets letter (folding.fold char.toNat) != negated
  | any lineFeed => lineFeed || char != '\n'
  | set negated members folding ascii =>
    let folded := folding.fold char.toNat
    members.any (Member.holds folding ascii folded) != negated

end LogSieve.Pattern
