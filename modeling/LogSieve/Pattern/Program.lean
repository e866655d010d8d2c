import LogSieve.Pattern.CharTest
import LogSieve.Pattern.Reader

/-!
# Programs

A pattern tree is resolved into a program: every option has found its way to the
steps that it concerns, and groups without a number have dissolved.  Two rules
that the grammar does not know are checked here: what is looked for behind a
place has one fixed width, and a template repeats nothing.
-/

namespace LogSieve.Pattern

/-- A condition on a place, with all options resolved. -/
inductive Place where
  | textStart
  | lineStart
  | textEnd
  /-- At the end of the text, or before a line feed that ends it. -/
  | lastLineEnd
  | lineEnd
  | wordEdge (ascii : Bool)
  | noWordEdge (ascii : Bool)
  deriving DecidableEq

/-- The condition that an anchor means under some options. -/
def Anchor.place (options : Options) : Anchor → Place
  | .lineStart => if options.multiline then .lineStart else .textStart
  | .lineEnd => if options.multiline then .lineEnd else .lastLineEnd
  | .textStart => .textStart
  | .textEnd => .textEnd
  | .wordEdge => .wordEdge options.ascii
  | .noWordEdge => .noWordEdge options.ascii

/-- A step of a program. -/
inductive Node where
  | char (test : CharTest)
  | place (place : Place)
  | repetition (greed : Greed) (least : Nat) (greatest : Option Nat) (body : List Node)
  | group (number : Nat) (body : List Node)
  | atomic (body : List Node)
  /-- A look ahead or, with a width, behind. -/
  | look (behind : Option Nat) (negated : Bool) (body : List Node)
  | branch (alternatives : List (List Node))
  | again (group : Nat) (folding : Folding)
  | conditional (group : Nat) (yes no : List Node)

/-- The greatest width that is looked behind. -/
def lookBehindLimit : Nat := 4294967295

/-- The width that is looked behind, which must be fixed. -/
def fixedWidth (body : List Item) : Except Fault Nat :=
  let width := itemsWidth body
  if width.least > lookBehindLimit ∨ width.least ≠ width.greatest then .error .malformed
  else .ok width.least

mutual
/-- The steps of an item. -/
def Item.nodes (options : Options) : Item → Except Fault (List Node)
  | .code negated code => .ok [.char (.code negated code options.folding)]
  | .any => .ok [.char (.any options.dotAll)]
  | .set negated members => .ok [.char (.set negated members options.folding options.ascii)]
  | .anchor anchor => .ok [.place (anchor.place options)]
  | .repetition greed least greatest body => do
    if options.template then .error .malformed
    else .ok [.repetition greed least greatest (← itemsNodes options body)]
  | .group number on off body => do
    let nodes ← itemsNodes (options.inGroup on off) body
    match number with
    | some number => .ok [.group number nodes]
    | none => .ok nodes
  | .atomic body => do .ok [.atomic (← itemsNodes options body)]
  | .look behind negated body => do
    let behind ← if behind then some <$> fixedWidth body else pure none
    .ok [.look behind negated (← itemsNodes options body)]
  | .branch alternatives => do .ok [.branch (← alternativesNodes options alternatives)]
  | .again group _ => .ok [.again group options.folding]
  | .conditional group yes no => do
    let yes ← itemsNodes options yes
    match no with
    | some no => .ok [.conditional group yes (← itemsNodes options no)]
    | none => .ok [.conditional group yes []]

/-- The steps of a sequence. -/
def itemsNodes (options : Options) : List Item → Except Fault (List Node)
  | [] => .ok []
  | item :: rest => do
    let nodes ← item.nodes options
    .ok (nodes ++ (← itemsNodes options rest))

/-- The steps of each sequence of a choice. -/
def alternativesNodes (options : Options) : List (List Item) → Except Fault (List (List Node))
  | [] => .ok []
  | items :: rest => do
    let nodes ← itemsNodes options items
    .ok (nodes :: (← alternativesNodes options rest))
end

/-- The program of a pattern text, given the options from outside; groups lie at most `depth`
deep. -/
def programOfText (depth : Nat) (options : Options) (text : Text) : Except Fault (List Node) := do
  let (items, options) ← itemsOfText depth options text
  itemsNodes options items

end LogSieve.Pattern
