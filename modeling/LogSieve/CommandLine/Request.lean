import LogSieve.CommandLine.Argument
import LogSieve.Text.Integer
import LogSieve.Text.Quoted
import LogSieve.Window

/-!
# Requests

The arguments of a command line are read from left to right.  The first plain
word is the query, and the word directly after it is the path; a plain word that
comes later has no place.  Values are read as they come, so the first bad one is
the one that is told, and a call for help ends the reading.
-/

namespace LogSieve.CommandLine

/-- Why a command line is refused. -/
inductive RequestFault where
  | ambiguous (ambiguity : Ambiguity)
  | valueMissing (switch : Switch)
  | valueIgnored (switch : Switch) (value : Text)
  | notAnInteger (switch : Switch) (value : Text)
  | notAStamp (switch : Switch) (value : Text)
  /-- A bound falls out of the calendar. -/
  | boundOutOfRange
  | queryMissing
  | withoutPlace (words : List Text)
  | pathMissing
  deriving DecidableEq

/-- What the next plain word is. -/
inductive Expecting where
  | query
  /-- The word directly after the query; nothing but the two dashes may come between. -/
  | path
  /-- The path was the last word, and the two dashes directly after it are without meaning. -/
  | dashes
  | nothing
  deriving DecidableEq

/-- What has been read of a command line. -/
structure Choices where
  query : Option Text
  path : Option Text
  help : Bool
  explain : Bool
  limit : Option Int
  since : Option Calendar.Instant
  till : Option Calendar.Instant
  bare : Bool
  expecting : Expecting
  /-- The words without a place, the latest first. -/
  withoutPlace : List Text

namespace Choices

/-- What is chosen before anything is read. -/
def start : Choices where
  query := none
  path := none
  help := false
  explain := false
  limit := none
  since := none
  till := none
  bare := false
  expecting := .query
  withoutPlace := []

/-- Reads a plain word.  Two dashes in the place of the path are no path. -/
def takeWord (choices : Choices) (word : Text) : Choices :=
  match choices.expecting with
  | .query => { choices with query := some word, expecting := .path }
  | .path =>
    { choices with
      path := if word = dashesWord then none else some word
      expecting := .dashes }
  | .dashes | .nothing =>
    { choices with expecting := .nothing, withoutPlace := word :: choices.withoutPlace }

/-- Reads the two dashes that end the options. -/
def takeDashes (choices : Choices) : Choices :=
  match choices.expecting with
  | .query | .path => choices
  | .dashes => { choices with expecting := .nothing }
  | .nothing => { choices with withoutPlace := dashesWord :: choices.withoutPlace }

/-- Passes an option, which no path can follow. -/
def passOption (choices : Choices) : Choices :=
  { choices with expecting := if choices.expecting = .query then .query else .nothing }

/-- Reads an option that does not exist. -/
def takeUnknown (choices : Choices) (word : Text) : Choices :=
  { choices.passOption with withoutPlace := word :: choices.withoutPlace }

/-- The bound that a value of an option writes. -/
def boundOf (switch : Switch) (value : Text) : Except RequestFault Calendar.Instant :=
  match Window.bound value with
  | .ok instant => .ok instant
  | .error .notAStamp => .error (.notAStamp switch value)
  | .error .outOfRange => .error .boundOutOfRange

/-- Reads an option with a value. -/
def takeValue (choices : Choices) (switch : Switch) (value : Text) :
    Except RequestFault Choices :=
  match switch with
  | .limit =>
    match Text.integer? value with
    | some limit => .ok { choices.passOption with limit := some limit }
    | none => .error (.notAnInteger switch value)
  | .since => do
    let bound ← boundOf switch value
    return { choices.passOption with since := some bound }
  | .till => do
    let bound ← boundOf switch value
    return { choices.passOption with till := some bound }
  | .help | .explain | .bare => .error (.valueIgnored switch value)

/-- Reads arguments. -/
def read (choices : Choices) : List Argument → Except RequestFault Choices
  | [] => .ok choices
  | .plain word :: rest => (choices.takeWord word).read rest
  | .dashes :: rest => choices.takeDashes.read rest
  | .unknown word :: rest => (choices.takeUnknown word).read rest
  | .option .help none :: _ => .ok { choices with help := true }
  | .option .explain none :: rest => { choices.passOption with explain := true }.read rest
  | .option .bare none :: rest => { choices.passOption with bare := true }.read rest
  | .option switch (some value) :: rest =>
    match choices.takeValue switch value with
    | .ok choices => choices.read rest
    | .error fault => .error fault
  | .option switch none :: .plain value :: rest =>
    match choices.takeValue switch value with
    | .ok choices => choices.read rest
    | .error fault => .error fault
  | .option switch none :: _ => .error (.valueMissing switch)

end Choices

/-- What a command line asks for. -/
inductive Request where
  | help
  /-- What does the query mean? -/
  | explain (query : Text)
  /-- Which lines of a file satisfy the query? -/
  | lines (query path : Text) (limit : Option Int) (since till : Option Calendar.Instant)
      (bare : Bool)
  deriving DecidableEq

/-- What has been chosen, if it is complete. -/
def Choices.request (choices : Choices) : Except RequestFault Request :=
  if choices.help then .ok .help
  else match choices.query with
    | none => .error .queryMissing
    | some query =>
      if ¬ choices.withoutPlace.isEmpty then .error (.withoutPlace choices.withoutPlace.reverse)
      else if choices.explain then .ok (.explain query)
      else match choices.path with
        | none => .error .pathMissing
        | some path =>
          .ok (.lines query path choices.limit choices.since choices.till choices.bare)

/-- What the words of a command line ask for. -/
def Request.ofWords (words : List Text) : Except RequestFault Request := do
  let arguments ← (Argument.ofWords words).mapError .ambiguous
  let choices ← Choices.start.read arguments
  choices.request

/-- What is said of an option. -/
def Switch.complaint (switch : Switch) (said : Text) : Text :=
  "argument ".toList ++ switch.names ++ ": ".toList ++ said

/-- What is said of a command line that is refused. -/
def RequestFault.message : RequestFault → Text
  | ambiguous ambiguity =>
    "ambiguous option: ".toList ++ ambiguity.word ++ " could match ".toList ++
      Text.joinWith ", ".toList (ambiguity.switches.map Switch.name)
  | valueMissing switch => switch.complaint "expected one argument".toList
  | valueIgnored switch value =>
    switch.complaint ("ignored explicit argument ".toList ++ value.quoted)
  | notAnInteger switch value => switch.complaint ("invalid int value: ".toList ++ value.quoted)
  | notAStamp switch value => switch.complaint ("not an ISO-8601 datetime: ".toList ++ value)
  | boundOutOfRange => Calendar.outOfRangeMessage
  | queryMissing => "the following arguments are required: query".toList
  | withoutPlace words => "unrecognized arguments: ".toList ++ Text.joinWith [' '] words
  | pathMissing => "log_path is required unless --explain is given".toList

end LogSieve.CommandLine
