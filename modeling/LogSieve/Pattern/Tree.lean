import LogSieve.Text.Basic

/-!
# Pattern trees

A search pattern is read into a sequence of items.  Characters are kept as code
points, since an escape can name a code point that is not a character.  Options
that a group turns on or off stay with the group until the tree is resolved.
-/

namespace LogSieve.Pattern

/-- The options of a pattern or of a group. -/
structure Options where
  ignoreCase : Bool
  /-- The anchors `^` and `$` also hold at the ends of lines. -/
  multiline : Bool
  /-- The point also stands for a line feed. -/
  dotAll : Bool
  /-- Blanks and comments in the pattern do not count. -/
  verbose : Bool
  /-- The classes of letters, digits and blanks are those of ASCII. -/
  ascii : Bool
  /-- The classes are asked for by name to be those of all writing systems. -/
  unicode : Bool
  /-- The pattern may not repeat anything. -/
  template : Bool
  deriving DecidableEq

/-- No option is on. -/
def Options.none : Options := ⟨false, false, false, false, false, false, false⟩

/-- The options that are on in one of two sets. -/
def Options.union (first second : Options) : Options where
  ignoreCase := first.ignoreCase || second.ignoreCase
  multiline := first.multiline || second.multiline
  dotAll := first.dotAll || second.dotAll
  verbose := first.verbose || second.verbose
  ascii := first.ascii || second.ascii
  unicode := first.unicode || second.unicode
  template := first.template || second.template

/-- The options of the first set that are not in the second one. -/
def Options.without (first second : Options) : Options where
  ignoreCase := first.ignoreCase && !second.ignoreCase
  multiline := first.multiline && !second.multiline
  dotAll := first.dotAll && !second.dotAll
  verbose := first.verbose && !second.verbose
  ascii := first.ascii && !second.ascii
  unicode := first.unicode && !second.unicode
  template := first.template && !second.template

/-- The options inside a group that turns some on and some off.  The two choices of character
classes exclude each other. -/
def Options.inGroup (outer on off : Options) : Options :=
  let outer :=
    if on.ascii || on.unicode then { outer with ascii := false, unicode := false } else outer
  (outer.union on).without off

/-- A property of characters that an escape names. -/
inductive Category where
  | digit | blank | word
  deriving DecidableEq

/-- A member of a character set. -/
inductive Member where
  | code (code : Nat)
  | range (first last : Nat)
  | category (negated : Bool) (category : Category)
  deriving DecidableEq

/-- A condition on a place of the text. -/
inductive Anchor where
  | lineStart | lineEnd | textStart | textEnd | wordEdge | noWordEdge
  deriving DecidableEq

/-- How a repetition chooses its count. -/
inductive Greed where
  /-- As many as possible, then fewer. -/
  | greedy
  /-- As few as possible, then more. -/
  | lazy
  /-- As many as possible, and no fewer. -/
  | possessive
  deriving DecidableEq

/-- The least and the greatest number of characters that an item matches. -/
structure Width where
  least : Nat
  greatest : Nat
  deriving DecidableEq

/-- An item of a pattern. -/
inductive Item where
  | code (negated : Bool) (code : Nat)
  | any
  | set (negated : Bool) (members : List Member)
  | anchor (anchor : Anchor)
  | repetition (greed : Greed) (least : Nat) (greatest : Option Nat) (body : List Item)
  /-- A group, perhaps numbered, with the options that it turns on and off. -/
  | group (number : Option Nat) (on off : Options) (body : List Item)
  /-- A group that is never entered again once it has matched. -/
  | atomic (body : List Item)
  /-- A look at the text after or before a place. -/
  | look (behind negated : Bool) (body : List Item)
  | branch (alternatives : List (List Item))
  /-- The text of a group again; the width is that of the group. -/
  | again (group : Nat) (width : Width)
  /-- One of two sequences, by whether a group has matched. -/
  | conditional (group : Nat) (yes : List Item) (no : Option (List Item))

/-! ## Widths -/

/-- Widths are not told apart from this size on. -/
def widthLimit : Nat := Nat.pow 2 64

/-- The sum of two widths. -/
def Width.add (first second : Width) : Width :=
  ⟨min (first.least + second.least) widthLimit, min (first.greatest + second.greatest) widthLimit⟩

/-- The width of a choice between two items. -/
def Width.either (first second : Width) : Width :=
  ⟨min first.least second.least, max first.greatest second.greatest⟩

/-- The width of a repetition. -/
def Width.times (width : Width) (least : Nat) (greatest : Option Nat) : Width :=
  let most := match greatest with
    | some count => width.greatest * count
    | none => if width.greatest = 0 then 0 else widthLimit
  ⟨min (width.least * least) widthLimit, min most widthLimit⟩

mutual
/-- The width of an item. -/
def Item.width : Item → Width
  | .code .. | .any | .set .. => ⟨1, 1⟩
  | .anchor _ | .look .. => ⟨0, 0⟩
  | .repetition _ least greatest body => (itemsWidth body).times least greatest
  | .group _ _ _ body | .atomic body => itemsWidth body
  | .branch alternatives => (alternativesWidth alternatives).getD ⟨0, 0⟩
  | .again _ width => width
  | .conditional _ yes no =>
    match no with
    | some no => (itemsWidth yes).either (itemsWidth no)
    | none => ⟨0, (itemsWidth yes).greatest⟩

/-- The width of a sequence. -/
def itemsWidth : List Item → Width
  | [] => ⟨0, 0⟩
  | item :: rest => item.width.add (itemsWidth rest)

/-- The width of a choice between sequences. -/
def alternativesWidth : List (List Item) → Option Width
  | [] => none
  | items :: rest =>
    match alternativesWidth rest with
    | some width => some ((itemsWidth items).either width)
    | none => some (itemsWidth items)
end

/-! ## Faults -/

/-- Why a pattern cannot be used. -/
inductive Fault where
  /-- The pattern breaks the grammar. -/
  | malformed
  /-- A repetition count is beyond what can be counted. -/
  | countTooLarge
  /-- A repetition count is written with too many digits to be read. -/
  | tooManyDigits (count : Nat)
  /-- The pattern asks for both kinds of character classes. -/
  | mixedClasses
  /-- Groups lie too deep in each other. -/
  | tooDeep
  deriving DecidableEq

end LogSieve.Pattern
