import LogSieve.Pattern.CharName.Ancient
import LogSieve.Pattern.CharName.Brahmic
import LogSieve.Pattern.CharName.Control
import LogSieve.Pattern.CharName.Eastern
import LogSieve.Pattern.CharName.Forms
import LogSieve.Pattern.CharName.Hieroglyphs
import LogSieve.Pattern.CharName.Indic
import LogSieve.Pattern.CharName.Latin
import LogSieve.Pattern.CharName.Modern
import LogSieve.Pattern.CharName.Notation
import LogSieve.Pattern.CharName.Phonetic
import LogSieve.Pattern.CharName.Pictures
import LogSieve.Pattern.CharName.Punctuation
import LogSieve.Pattern.CharName.Regional
import LogSieve.Pattern.CharName.Semitic
import LogSieve.Pattern.CharName.Shapes
import LogSieve.Pattern.CharName.Supplement
import LogSieve.Pattern.CharName.Symbols
import LogSieve.Pattern.CharName.Technical
import LogSieve.Text.Digit

/-!
# Character names

A pattern may give a character by its name, in letters of either case.  Most
names stand in tables, those of version 14 of the character database.  Those of
ideographs and of Korean syllables follow rules: an ideograph is named by its code
point, a syllable by its sounds.  They must be written in capitals.
-/

namespace LogSieve.Pattern

/-- The runs of names. -/
def nameRuns : List NameRun :=
  latinNames ++ semiticNames ++ indicNames ++ regionalNames ++ phoneticNames ++ punctuationNames ++
    technicalNames ++ symbolNames ++ easternNames ++ modernNames ++ formNames ++ ancientNames ++
    brahmicNames ++ hieroglyphNames ++ supplementNames ++ notationNames ++ pictureNames ++
    shapeNames

/-- The capital of an ASCII letter. -/
def asciiCapital (c : Char) : Char :=
  if 'a' ≤ c && c ≤ 'z' then Char.ofNat (c.toNat - 32) else c

/-- The rest of a text after the given start. -/
def afterStart? (start : String) (text : Text) : Option Text :=
  if start.toList.isPrefixOf text then some (text.drop start.length) else none

/-! ## Ideographs -/

/-- The code points of ideographs. -/
def ideographRanges : List (Nat × Nat) :=
  [(0x3400, 0x4DBF), (0x4E00, 0x9FFF), (0x20000, 0x2A6DF), (0x2A700, 0x2B738),
    (0x2B740, 0x2B81D), (0x2B820, 0x2CEA1), (0x2CEB0, 0x2EBE0), (0x30000, 0x3134A)]

/-- The code point of the name of an ideograph, which ends with four or five digits. -/
def ideographCode? (name : Text) : Option Nat := do
  let digits ← afterStart? "CJK UNIFIED IDEOGRAPH-" name
  if digits.any (fun c => 'a' ≤ c && c ≤ 'f') || (digits.length ≠ 4 && digits.length ≠ 5) then
    none
  else
    let code ← Text.hexadecimal? digits
    if ideographRanges.any fun (first, last) => first ≤ code && code ≤ last then some code
    else none

/-! ## Korean syllables -/

/-- The sounds that begin a syllable. -/
def leadingSounds : List String :=
  ["G", "GG", "N", "D", "DD", "R", "M", "B", "BB", "S", "SS", "", "J", "JJ", "C", "K", "T", "P",
    "H"]

/-- The sounds in the middle of a syllable. -/
def middleSounds : List String :=
  ["A", "AE", "YA", "YAE", "EO", "E", "YEO", "YE", "O", "WA", "WAE", "OE", "YO", "U", "WEO", "WE",
    "WI", "YU", "EU", "YI", "I"]

/-- The sounds that end a syllable. -/
def trailingSounds : List String :=
  ["", "G", "GG", "GS", "N", "NJ", "NH", "D", "L", "LG", "LM", "LB", "LS", "LT", "LP", "LH", "M",
    "B", "BS", "S", "SS", "NG", "J", "C", "K", "T", "P", "H"]

/-- The longest of some sounds at the start of a text: its number, and the rest of the text. -/
def longestSound? (sounds : List String) (text : Text) : Option (Nat × Text) :=
  let fitting := sounds.zipIdx.filter fun (sound, _) => sound.toList.isPrefixOf text
  let longest := fitting.foldl (fun best (sound, number) =>
    match best with
    | some (size, _) => if size < sound.length then some (sound.length, number) else best
    | none => some (sound.length, number)) none
  longest.map fun (size, number) => (number, text.drop size)

/-- The code point of the name of a Korean syllable. -/
def syllableCode? (name : Text) : Option Nat := do
  let sounds ← afterStart? "HANGUL SYLLABLE " name
  let (leading, rest) ← longestSound? leadingSounds sounds
  let (middle, rest) ← longestSound? middleSounds rest
  let (trailing, rest) ← longestSound? trailingSounds rest
  if rest.isEmpty then some (0xAC00 + (leading * 21 + middle) * 28 + trailing) else none

/-! ## Selectors -/

/-- The code point of the short name of a variation selector, which is its number. -/
def selectorCode? (name : Text) : Option Nat := do
  let digits ← afterStart? "VS" name
  let number ← Text.decimal? digits
  if digits ≠ Text.ofNat number ∨ number < 1 ∨ 256 < number then none
  else if number ≤ 16 then some (0xFE00 + (number - 1))
  else some (0xE0100 + (number - 17))

/-! ## All names -/

/-- The code point of the character of a name. -/
def codeOfName? (name : Text) : Option Nat :=
  match syllableCode? name, ideographCode? name with
  | some code, _ => some code
  | none, some code => some code
  | none, none =>
    let capital := name.map asciiCapital
    match nameRuns.findSome? fun run => run.code? capital with
    | some code => some code
    | none => (selectorCode? capital).orElse fun _ => codeOfOtherName? capital

end LogSieve.Pattern
