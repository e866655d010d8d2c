import LogSieve.Pattern.Program

/-!
# Searching for a pattern

A program is run by backtracking.  A configuration holds the tasks that are still
to be done, the position in the text, the marks of the groups, and the choices to
come back to.  Tasks and choices are immutable, so coming back needs no undoing.

Looks, atomic groups and possessive repetitions are runs of their own, whose
choices are gone once they have succeeded.
-/

namespace LogSieve.Pattern

/-- The positions where groups began and ended, the latest first: group `n` begins at mark `2 * n`
and ends at mark `2 * n + 1`. -/
abbrev Marks := List (Nat × Nat)

/-- The span of a group that has matched. -/
def Marks.span? (group : Nat) (marks : Marks) : Option (Nat × Nat) :=
  match marks.lookup (2 * group), marks.lookup (2 * group + 1) with
  | some first, some last => if last < first then none else some (first, last)
  | _, _ => none

/-- Something that remains to be done. -/
inductive Task where
  | nodes (nodes : List Node)
  | mark (mark : Nat)
  /-- The rest of a repetition: how often the body has matched, and where the last optional match
  began. -/
  | again (greed : Greed) (least : Nat) (greatest : Option Nat) (body : List Node)
      (count : Nat) (last : Option Nat)

/-- A place to come back to. -/
inductive Choice where
  | resume (tasks : List Task) (position : Nat) (marks : Marks)
  /-- A run of `count` characters that may still be shorter. -/
  | shorter (tasks : List Task) (start count least : Nat) (marks : Marks)
  /-- A run that ends at `position` and may still be longer, by at most `room` characters. -/
  | longer (test : CharTest) (tasks : List Task) (position : Nat) (room : Option Nat)
      (marks : Marks)

/-- The state of a run. -/
structure Config where
  tasks : List Task
  position : Nat
  marks : Marks
  choices : List Choice

/-- What a step of a run leads to. -/
inductive Outcome where
  | next (config : Config)
  | matched (position : Nat) (marks : Marks)
  | failed (choices : List Choice)

/-- Whether there is a word character at a position. -/
def wordAt (ascii : Bool) (subject : Array Char) (position : Nat) : Bool :=
  match subject[position]? with
  | some char => Category.word.holds ascii char
  | none => false

/-- Whether one of the two sides of a position is a word and the other is not. -/
def onWordEdge (ascii : Bool) (subject : Array Char) (position : Nat) : Bool :=
  let before := position != 0 && wordAt ascii subject (position - 1)
  before != wordAt ascii subject position

/-- Whether a position meets a condition.  An empty text has no edges of words and no other
places either. -/
def Place.holds (subject : Array Char) (position : Nat) : Place → Bool
  | textStart => position == 0
  | lineStart => position == 0 || subject[position - 1]? == some '\n'
  | textEnd => position == subject.size
  | lastLineEnd =>
    position == subject.size ||
      (position + 1 == subject.size && subject[position]? == some '\n')
  | lineEnd => position == subject.size || subject[position]? == some '\n'
  | wordEdge ascii => !subject.isEmpty && onWordEdge ascii subject position
  | noWordEdge ascii => !subject.isEmpty && !onWordEdge ascii subject position

/-- How many characters from a position on pass a test, at most `limit`. -/
def runLength (subject : Array Char) (test : CharTest) : Nat → Nat → Nat
  | 0, _ => 0
  | limit + 1, position =>
    match subject[position]? with
    | some char => if test.holds char then runLength subject test limit (position + 1) + 1 else 0
    | none => 0

/-- Whether the text from `position` on repeats the text from `first` on, for `count` characters. -/
def repeats (subject : Array Char) (folding : Folding) (first position : Nat) : Nat → Bool
  | 0 => true
  | count + 1 =>
    match subject[first]?, subject[position]? with
    | some a, some b =>
      folding.fold a.toNat == folding.fold b.toNat &&
        repeats subject folding (first + 1) (position + 1) count
    | _, _ => false

/-- The configuration at the latest choice that still has something to offer. -/
def comeBack (subject : Array Char) : List Choice → Option Config
  | [] => none
  | .resume tasks position marks :: choices => some ⟨tasks, position, marks, choices⟩
  | .shorter tasks start count least marks :: choices =>
    if count ≤ least then comeBack subject choices
    else some ⟨tasks, start + (count - 1), marks,
      .shorter tasks start (count - 1) least marks :: choices⟩
  | .longer test tasks position room marks :: choices =>
    if room = some 0 then comeBack subject choices
    else if (subject[position]?).any test.holds then
      some ⟨tasks, position + 1, marks,
        .longer test tasks (position + 1) (room.map (· - 1)) marks :: choices⟩
    else comeBack subject choices

/-- A repetition of a test of single characters. -/
def repeatTest (subject : Array Char) (greed : Greed) (least : Nat) (greatest : Option Nat)
    (test : CharTest) (config : Config) : Outcome :=
  let left := subject.size - config.position
  let limit := match greed, greatest with
    | .lazy, _ => min least left
    | _, some most => min most left
    | _, none => left
  let count := runLength subject test limit config.position
  let after := { config with position := config.position + count }
  if count < least then .failed config.choices
  else match greed with
    | .possessive => .next after
    | .greedy =>
      .next { after with
        choices := .shorter config.tasks config.position count least config.marks ::
          config.choices }
    | .lazy =>
      .next { after with
        choices := .longer test config.tasks after.position (greatest.map (· - least))
          config.marks :: config.choices }

/-- The next round of a repetition, whose task has been taken off already.  After the least number
of rounds, a further one is tried only if the round before it moved on. -/
def repeatBody (alone : Config → Option (Nat × Marks)) (greed : Greed) (least : Nat)
    (greatest : Option Nat) (body : List Node) (count : Nat) (last : Option Nat)
    (config : Config) : Outcome :=
  let round (last : Option Nat) : List Task :=
    .nodes body :: .again greed least greatest body (count + 1) last :: config.tasks
  let mayRepeat := greatest.all (count < ·) && last != some config.position
  match greed with
  | .possessive =>
    if count < least ∨ mayRepeat then
      match alone ⟨[.nodes body], config.position, config.marks, []⟩ with
      | some (position, marks) =>
        let last := if count < least then last else some config.position
        .next { config with
          tasks := .again greed least greatest body (count + 1) last :: config.tasks
          position := position, marks := marks }
      | none => if count < least then .failed config.choices else .next config
    else .next config
  | _ =>
    if count < least then .next { config with tasks := round last }
    else if ¬ mayRepeat then .next config
    else
      let more := round (some config.position)
      if greed = .greedy then
        .next { config with
          tasks := more
          choices := .resume config.tasks config.position config.marks :: config.choices }
      else
        .next { config with
          choices := .resume more config.position config.marks :: config.choices }

/-- One step of a program, whose task has been taken off already.  `alone` makes a run of its
own. -/
def Node.step (subject : Array Char) (alone : Config → Option (Nat × Marks)) (config : Config) :
    Node → Outcome
  | char test =>
    match subject[config.position]? with
    | some c =>
      if test.holds c then .next { config with position := config.position + 1 }
      else .failed config.choices
    | none => .failed config.choices
  | place here =>
    if here.holds subject config.position then .next config else .failed config.choices
  | repetition greed least greatest [.char test] =>
    repeatTest subject greed least greatest test config
  | repetition greed least greatest body =>
    .next { config with tasks := .again greed least greatest body 0 none :: config.tasks }
  | group number body =>
    .next { config with
      tasks := .nodes body :: .mark (2 * number + 1) :: config.tasks
      marks := (2 * number, config.position) :: config.marks }
  | atomic body =>
    match alone ⟨[.nodes body], config.position, config.marks, []⟩ with
    | some (position, marks) => .next { config with position := position, marks := marks }
    | none => .failed config.choices
  | look behind negated body =>
    let width := behind.getD 0
    let found :=
      if config.position < width then none
      else alone ⟨[.nodes body], config.position - width, config.marks, []⟩
    match found, negated with
    | some (_, marks), false => .next { config with marks := marks }
    | none, true => .next config
    | _, _ => .failed config.choices
  | branch [] => .failed config.choices
  | branch (first :: others) =>
    .next { config with
      tasks := .nodes first :: config.tasks
      choices := .resume (.nodes [.branch others] :: config.tasks) config.position config.marks ::
        config.choices }
  | again number folding =>
    match config.marks.span? number with
    | some (first, last) =>
      if repeats subject folding first config.position (last - first) then
        .next { config with position := config.position + (last - first) }
      else .failed config.choices
    | none => .failed config.choices
  | conditional number yes no =>
    let chosen := if (config.marks.span? number).isSome then yes else no
    .next { config with tasks := .nodes chosen :: config.tasks }

/-- One step of a run. -/
def Config.step (subject : Array Char) (alone : Config → Option (Nat × Marks)) (config : Config) :
    Outcome :=
  match config.tasks with
  | [] => .matched config.position config.marks
  | .nodes [] :: tasks => .next { config with tasks := tasks }
  | .nodes [node] :: tasks => node.step subject alone { config with tasks := tasks }
  | .nodes (node :: nodes) :: tasks =>
    node.step subject alone { config with tasks := .nodes nodes :: tasks }
  | .mark mark :: tasks =>
    .next { config with tasks := tasks, marks := (mark, config.position) :: config.marks }
  | .again greed least greatest body count last :: tasks =>
    repeatBody alone greed least greatest body count last { config with tasks := tasks }

/-- A run of at most `fuel` steps: where it ends and the marks that it leaves. -/
def run (subject : Array Char) : Nat → Config → Option (Nat × Marks)
  | 0, _ => none
  | fuel + 1, config =>
    match config.step subject (run subject fuel) with
    | .next config => run subject fuel config
    | .matched position marks => some (position, marks)
    | .failed choices =>
      match comeBack subject choices with
      | some config => run subject fuel config
      | none => none

/-- More steps than any search takes. -/
def stepLimit : Nat := 4611686018427387904

/-- Whether a program matches at a position. -/
def matchesAt (program : List Node) (subject : Array Char) (position : Nat) : Bool :=
  (run subject stepLimit ⟨[.nodes program], position, [], []⟩).isSome

/-- Whether a program matches at one of `count` positions from `position` on. -/
def matchesFrom (program : List Node) (subject : Array Char) : Nat → Nat → Bool
  | 0, _ => false
  | count + 1, position =>
    matchesAt program subject position || matchesFrom program subject count (position + 1)

/-- Whether a program matches somewhere in a text. -/
def matchesIn (program : List Node) (subject : Array Char) : Bool :=
  matchesFrom program subject (subject.size + 1) 0

end LogSieve.Pattern
