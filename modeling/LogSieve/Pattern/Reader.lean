import LogSieve.Pattern.Escape
import LogSieve.Text.Identifier
import LogSieve.Text.Integer

/-!
# Reading patterns

A pattern is a choice of sequences; a sequence is made of characters, sets,
anchors, groups and repetitions of the item before.  The readers here take the
reader of what lies inside a group as a parameter; `readPart` ties the knot by
recursion on how deep groups may lie.
-/

namespace LogSieve.Pattern

/-! ## Sets -/

/-- The member that a mark inside a set begins with. -/
def setMember : Mark → Read Member
  | .escaped c => setEscape c
  | .plain c => return .code c.toNat

/-- A range between two members, which must be single code points in order. -/
def rangeMember : Member → Member → Read Member
  | .code first, .code last => if first ≤ last then return .range first last else malformed
  | _, _ => malformed

/-- The members of a set up to its closing bracket; a bracket right at the start is a member. -/
def setMembers : Nat → List Member → Read (List Member)
  | 0, _ => malformed
  | fuel + 1, members => do
    let mark ← takeSome
    if mark = .plain ']' ∧ ¬ members.isEmpty then return members.reverse
    else
      let first ← setMember mark
      if ← accept '-' then
        let next ← takeSome
        if next = .plain ']' then return (.code '-'.toNat :: first :: members).reverse
        else
          let last ← setMember next
          setMembers fuel ((← rangeMember first last) :: members)
      else setMembers fuel (first :: members)

/-- A set after its opening bracket.  A single code point needs no set. -/
def readSet : Read Item := do
  let negated ← accept '^'
  let members ← setMembers ((← get).rest.length + 1) []
  match members.eraseDups with
  | [.code code] => return .code negated code
  | members => return .set negated members

/-! ## Repetitions -/

/-- Repetition counts are below this bound. -/
def countBound : Nat := 4294967295

/-- The greatest number of digits with which a count is read. -/
def countDigitLimit : Nat := 4300

/-- A count between braces, if one is written. -/
def readCount (digits : Text) : Read (Option Nat) :=
  match Text.decimal? digits with
  | none => return none
  | some count =>
    if digits.length > countDigitLimit then throw (.tooManyDigits digits.length)
    else if count ≥ countBound then throw .countTooLarge
    else return some count

/-- The counts after an opening brace; `none` if the brace is only a character. -/
def readCounts : Read (Option (Nat × Option Nat)) := do
  let start := (← get).rest
  if start.head? = some (.plain '\x7d') then return none
  else
    let low ← takeDigits
    let high ← if ← accept ',' then takeDigits else pure low
    if ← accept '\x7d' then
      let least := (← readCount low).getD 0
      let greatest ← readCount high
      if greatest.any (· < least) then malformed else return some (least, greatest)
    else
      goTo start
      return none

/-- What a repetition of an item repeats. -/
def repeatedBody? : Item → Option (List Item)
  | .anchor _ | .repetition .. => none
  | .group none on off body =>
    if on = .none ∧ off = .none then some body else some [.group none on off body]
  | item => some [item]

/-- How a repetition goes about it, by the mark behind its counts.  A plus sign behind a question
mark begins a repetition of its own. -/
def readGreed : Read Greed := do
  if ← accept '?' then return .lazy
  if ← accept '+' then return .possessive
  return .greedy

/-- The items, last first, with the last one repeated. -/
def repeatLast (least : Nat) (greatest : Option Nat) (items : List Item) : Read (List Item) := do
  match items with
  | [] => malformed
  | item :: before =>
    match repeatedBody? item with
    | none => malformed
    | some body =>
      let greed ← readGreed
      return .repetition greed least greatest body :: before

/-! ## Options -/

/-- The option that a letter stands for. -/
def optionOf? : Char → Option Options
  | 'i' => some { Options.none with ignoreCase := true }
  | 'm' => some { Options.none with multiline := true }
  | 's' => some { Options.none with dotAll := true }
  | 'x' => some { Options.none with verbose := true }
  | 'a' => some { Options.none with ascii := true }
  | 'u' => some { Options.none with unicode := true }
  | 't' => some { Options.none with template := true }
  | _ => none

/-- The options that are turned on, and the character that ends them. -/
def optionsOn : Nat → Char → Options → Read (Options × Char)
  | 0, _, _ => malformed
  | fuel + 1, char, known =>
    match optionOf? char with
    | none => malformed
    | some option => do
      let known := known.union option
      if known.ascii && known.unicode then malformed
      else
        match ← takeSome with
        | .plain c =>
          if c = ')' ∨ c = ':' ∨ c = '-' then return (known, c) else optionsOn fuel c known
        | .escaped _ => malformed

/-- The options that are turned off, up to the colon. -/
def optionsOff : Nat → Options → Read Options
  | 0, _ => malformed
  | fuel + 1, known => do
    match ← takeSome with
    | .escaped _ => malformed
    | .plain c =>
      if c = ':' ∧ known ≠ .none then return known
      else match optionOf? c with
        | none => malformed
        | some option =>
          if option.ascii || option.unicode then malformed
          else optionsOff fuel (known.union option)

/-- Options after `(?` and their first character: those of a group, turned on and off, or `none`
once they have been set for the whole pattern. -/
def readOptions (char : Char) : Read (Option (Options × Options)) := do
  let fuel := (← get).rest.length + 1
  let (on, stop) ← if char = '-' then pure (Options.none, '-') else optionsOn fuel char .none
  if stop = ')' then
    modify fun progress => { progress with options := progress.options.union on }
    return none
  else
    let off ← if stop = '-' then optionsOff fuel .none else pure .none
    if on.template || off.template || on ≠ on.without off then malformed
    else return some (on, off)

/-! ## Groups -/

/-- What is read inside a group. -/
inductive Part where
  /-- A choice of sequences. -/
  | alternatives
  /-- One sequence. -/
  | branch
  deriving DecidableEq

/-- What an opening parenthesis turned out to begin. -/
inductive Opened where
  | item (item : Item)
  | comment
  /-- Options for the whole pattern. -/
  | options

/-- Passes a comment in parentheses. -/
def skipComment : Read Unit := do
  match textUntil ')' (← get).rest with
  | some (_, after) => goTo after
  | none => malformed

/-- A group, after its opening, with the options that it turns on and off. -/
def readGroup (inside : Part → Bool → Read (List Item)) (verbose : Bool)
    (name : Option Text) (captures atomic : Bool) (on off : Options) : Read Item := do
  let number ← if captures then some <$> openGroup name else pure none
  let body ← inside .alternatives ((verbose || on.verbose) && !off.verbose)
  expect ')'
  match number with
  | some number => closeGroup number (itemsWidth body)
  | none => pure ()
  if atomic then return .atomic body else return .group number on off body

/-- A look ahead or behind, after its opening. -/
def readLook (inside : Part → Bool → Read (List Item)) (verbose behind negated : Bool) :
    Read Item := do
  let before := (← get).beforeLook
  if behind && before.isNone then
    modify fun progress => { progress with beforeLook := some progress.groupCount }
  let body ← inside .alternatives verbose
  if behind && before.isNone then
    modify fun progress => { progress with beforeLook := none }
  expect ')'
  return .look behind negated body

/-- The group that a conditional asks for: a name or a number, which may belong to a group that
comes later. -/
def conditionGroup (name : Text) : Read Nat := do
  if Text.isIdentifier name then
    match Association.get? name (← get).names with
    | some number => return number
    | none => malformed
  else match Text.integer? name with
    | none => malformed
    | some number =>
      if number ≤ 0 then malformed
      else
        modify fun progress => { progress with awaited := number.toNat :: progress.awaited }
        return number.toNat

/-- A conditional, after `(?(`. -/
def readConditional (inside : Part → Bool → Read (List Item)) (verbose : Bool) : Read Item := do
  let group ← conditionGroup (← takeName ')')
  checkLookBehind group
  let yes ← inside .branch verbose
  let no ← if ← accept '|' then some <$> inside .branch verbose else pure none
  expect ')'
  return .conditional group yes no

/-- A named group or a reference to one, after `(?P`. -/
def readNamed (inside : Part → Bool → Read (List Item)) (verbose : Bool) : Read Item := do
  if ← accept '<' then
    let name ← takeName '>'
    if Text.isIdentifier name then readGroup inside verbose (some name) true false .none .none
    else malformed
  else if ← accept '=' then
    let name ← takeName ')'
    match Association.get? name (← get).names with
    | some number => backReference number
    | none => malformed
  else malformed

/-- What an opening parenthesis begins. -/
def readOpened (inside : Part → Bool → Read (List Item)) (verbose : Bool) : Read Opened := do
  if ← accept '?' then
    match ← takeSome with
    | .escaped _ => malformed
    | .plain 'P' => .item <$> readNamed inside verbose
    | .plain ':' => .item <$> readGroup inside verbose none false false .none .none
    | .plain '>' => .item <$> readGroup inside verbose none false true .none .none
    | .plain '#' =>
      skipComment
      return .comment
    | .plain '=' => .item <$> readLook inside verbose false false
    | .plain '!' => .item <$> readLook inside verbose false true
    | .plain '<' =>
      match ← takeSome with
      | .plain '=' => .item <$> readLook inside verbose true false
      | .plain '!' => .item <$> readLook inside verbose true true
      | _ => malformed
    | .plain '(' => .item <$> readConditional inside verbose
    | .plain c =>
      match ← readOptions c with
      | none => return .options
      | some (on, off) => .item <$> readGroup inside verbose none false false on off
  else .item <$> readGroup inside verbose none true false .none .none

/-! ## Sequences -/

/-- Whether a blank of a pattern does not count when the pattern is verbose. -/
def isPatternBlank (c : Char) : Bool := c == ' ' || (9 ≤ c.toNat && c.toNat ≤ 13)

/-- The marks after the end of the line. -/
def afterLine : List Mark → List Mark
  | [] => []
  | mark :: rest => if mark = .plain '\n' then rest else afterLine rest

/-- The items with the bodies of plain groups in their places. -/
def unpackGroups (items : List Item) : List Item :=
  items.flatMap fun
    | .group none on off body =>
      if on = .none ∧ off = .none then body else [.group none on off body]
    | item => [item]

/-- A sequence, up to a bar, a closing parenthesis or the end.  `items` are the items so far, last
one first; options for the whole pattern may come at the start of the pattern only. -/
def readSequence (inside : Part → Bool → Read (List Item)) (first : Bool) :
    Nat → Bool → List Item → Read (List Item)
  | 0, _, _ => malformed
  | fuel + 1, verbose, items => do
    match ← peek with
    | none | some (.plain '|') | some (.plain ')') => return unpackGroups items.reverse
    | some mark =>
      goTo (← get).rest.tail
      match mark with
      | .escaped c => readSequence inside first fuel verbose ((← itemEscape c) :: items)
      | .plain c =>
        if verbose && isPatternBlank c then readSequence inside first fuel verbose items
        else if verbose && c == '#' then
          goTo (afterLine (← get).rest)
          readSequence inside first fuel verbose items
        else match c with
          | '[' => readSequence inside first fuel verbose ((← readSet) :: items)
          | '?' => readSequence inside first fuel verbose (← repeatLast 0 (some 1) items)
          | '*' => readSequence inside first fuel verbose (← repeatLast 0 none items)
          | '+' => readSequence inside first fuel verbose (← repeatLast 1 none items)
          | '\x7b' =>
            match ← readCounts with
            | none => readSequence inside first fuel verbose (.code false c.toNat :: items)
            | some (least, greatest) =>
              readSequence inside first fuel verbose (← repeatLast least greatest items)
          | '.' => readSequence inside first fuel verbose (.any :: items)
          | '^' => readSequence inside first fuel verbose (.anchor .lineStart :: items)
          | '$' => readSequence inside first fuel verbose (.anchor .lineEnd :: items)
          | '(' =>
            match ← readOpened inside verbose with
            | .item item => readSequence inside first fuel verbose (item :: items)
            | .comment => readSequence inside first fuel verbose items
            | .options =>
              if first && items.isEmpty then
                readSequence inside first fuel (← get).options.verbose items
              else malformed
          | _ => readSequence inside first fuel verbose (.code false c.toNat :: items)

/-! ## Alternatives -/

/-- Whether two items are the same simple item. -/
def sameSimple : Item → Item → Bool
  | .code negated code, .code negated' code' => negated == negated' && code == code'
  | .any, .any => true
  | .set negated members, .set negated' members' => negated == negated' && members == members'
  | .anchor anchor, .anchor anchor' => anchor == anchor'
  | .again group _, .again group' _ => group == group'
  | _, _ => false

/-- The simple items that all sequences begin with, and the sequences without them. -/
def sharedStart : List Item → List (List Item) → List Item × List (List Item)
  | [], others => ([], [] :: others)
  | item :: rest, others =>
    if others.all fun items => items.head?.any (sameSimple item) then
      let (shared, remainders) := sharedStart rest (others.map List.tail)
      (item :: shared, remainders)
    else ([], (item :: rest) :: others)

/-- The members of a set that stands for a sequence of one item. -/
def asMembers? : List Item → Option (List Member)
  | [.code false code] => some [.code code]
  | [.set false members] => some members
  | _ => none

/-- The items of a choice: what all sequences share comes first, and a choice between single
characters is a set. -/
def itemsOfAlternatives : List (List Item) → List Item
  | [] => []
  | [items] => items
  | first :: others =>
    let (shared, remainders) := sharedStart first others
    match remainders.mapM asMembers? with
    | some members => shared ++ [.set false members.flatten.eraseDups]
    | none => shared ++ [.branch remainders]

/-- Sequences separated by bars; `before` are those read so far, last one first. -/
def readAlternatives (inside : Part → Bool → Read (List Item)) (top : Bool) :
    Nat → Bool → List (List Item) → Read (List (List Item))
  | 0, _, _ => malformed
  | fuel + 1, verbose, before => do
    let length := (← get).rest.length
    let items ← readSequence inside (top && before.isEmpty) (length + 1) verbose []
    if ← accept '|' then
      let options := (← get).options
      readAlternatives inside top fuel (if top then options.verbose else verbose)
        (items :: before)
    else return (items :: before).reverse

/-- A part of a pattern in which groups lie at most `depth` deep. -/
def readPart : Nat → Bool → Part → Bool → Read (List Item)
  | 0, _, _, _ => throw .tooDeep
  | depth + 1, top, part, verbose => do
    let length := (← get).rest.length
    match part with
    | .alternatives =>
      return itemsOfAlternatives
        (← readAlternatives (readPart depth false) top (length + 1) verbose [])
    | .branch => readSequence (readPart depth false) false (length + 1) verbose []

/-- A whole pattern: its items and its options. -/
def readPattern (depth : Nat) : Read (List Item × Options) := do
  let start ← get
  goTo start.rest
  let items ← readPart depth true .alternatives start.options.verbose
  let progress ← get
  if progress.options.ascii && progress.options.unicode then throw .mixedClasses
  else if !progress.rest.isEmpty then malformed
  else if progress.awaited.any (progress.groupCount ≤ ·) then malformed
  else return (items, progress.options)

/-- The items of a pattern text and the options of the whole pattern, given the options from
outside; groups lie at most `depth` deep. -/
def itemsOfText (depth : Nat) (options : Options) (text : Text) :
    Except Fault (List Item × Options) :=
  let (rest, lone) := marks text
  (readPattern depth).run' ⟨rest, lone, options, [], [], none, []⟩

end LogSieve.Pattern
