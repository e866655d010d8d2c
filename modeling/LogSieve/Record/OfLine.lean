import LogSieve.Calendar.Stamp
import LogSieve.FaultKind
import LogSieve.Record.Embedded
import LogSieve.Record.Pairs
import LogSieve.Severity
import LogSieve.Text.Integer

/-!
# Records of lines

A raw line becomes a record: its content comes from an embedded object or else
from pairs, its level from a field or else from words in the line, its instant
from a field or else from a stamp at the start of the line.
-/

namespace LogSieve

/-- Why a line was not read. -/
inductive LineFault where
  /-- An embedded number has this many digits. -/
  | tooManyDigits (count : Nat)
  /-- Embedded objects or arrays are too deep in each other. -/
  | tooDeep
  /-- A stamp falls out of the years 1 to 9999 in universal time. -/
  | instantOutOfRange
  deriving DecidableEq

/-- The kind of a fault of a line. -/
def LineFault.kind : LineFault → FaultKind
  | tooManyDigits _ => .value
  | tooDeep => .recursion
  | instantOutOfRange => .overflow

/-- What is said of a line that cannot be read, if anything. -/
def LineFault.message? : LineFault → Option Text
  | tooManyDigits count => some (Text.digitsMessage count)
  | tooDeep => none
  | instantOutOfRange => some Calendar.outOfRangeMessage

/-- The content of a line. -/
def Content.ofLine (stack : Stack) (raw : Text) : Except LineFault Content :=
  match Embedded.content? stack raw with
  | .ok (some content) => .ok content
  | .ok none | .error .malformed => .ok (Pairs.content raw)
  | .error (.tooManyDigits count) => .error (.tooManyDigits count)
  | .error .tooDeep => .error .tooDeep

namespace Calendar

/-- Why a stamp that could be read has no instant: it falls out of the calendar. -/
inductive OutOfRange where
  | outOfRange
  deriving DecidableEq

/-- The letter `Z` written as the offset that it stands for. -/
def spellOutZulu (text : Text) : Text :=
  text.flatMap fun c => if c = 'Z' then "+00:00".toList else [c]

/-- The instant that a text writes, on a clock in universal time if it has no offset; `none` if
it is no stamp. -/
def Instant.ofText? (text : Text) : Except OutOfRange (Option Instant) :=
  match Stamp.ofText (spellOutZulu text) with
  | .error _ => .ok none
  | .ok stamp =>
    match stamp.toInstant? 0 with
    | some instant => .ok (some instant)
    | none => .error .outOfRange

end Calendar

namespace Record

/-- The keys of the instant of a line, in order of preference. -/
def timeKeys : List Text :=
  ["timestamp".toList, "time".toList, "ts".toList, "@timestamp".toList]

/-- The keys of the level of a line, in order of preference. -/
def levelKeys : List Text :=
  ["level".toList, "severity".toList, "lvl".toList, "log_level".toList]

/-- The level of a line, from its fields or else from its words. -/
def inferredLevel? (raw : Text) (fields : Fields) : Option Severity :=
  match (fields.firstNonempty? levelKeys).bind Severity.ofLabel? with
  | some severity => some severity
  | none => Severity.mentioned? raw

/-! ## Stamps at the start of a line -/

/-- What a layout asks of one character. -/
inductive Slot where
  | digit
  | oneOf (choices : List Char)

/-- Whether a character fills a slot. -/
def Slot.admits : Slot → Char → Bool
  | digit, c => Text.isDigit c
  | oneOf choices, c => choices.contains c

/-- The characters that fill a layout at the start of a text, and the rest. -/
def fill? : List Slot → Text → Option (Text × Text)
  | [], text => some ([], text)
  | slot :: slots, c :: rest =>
    if slot.admits c then (fill? slots rest).map fun (filled, after) => (c :: filled, after)
    else none
  | _ :: _, [] => none

/-- The layout of a date and a time, as in `2025-12-30T08:12:04`. -/
def stampLayout : List Slot :=
  let two := [Slot.digit, .digit]
  two ++ two ++ .oneOf ['-'] :: two ++ .oneOf ['-'] :: two ++ .oneOf ['T', ' '] :: two ++
    .oneOf [':'] :: two ++ .oneOf [':'] :: two

/-- The fraction at the start of a text, if there is one: a point and digits. -/
def leadingFraction : Text → Text × Text
  | '.' :: rest =>
    match rest.takeWhile Text.isDigit with
    | [] => ([], '.' :: rest)
    | digits => ('.' :: digits, rest.dropWhile Text.isDigit)
  | text => ([], text)

/-- The offset at the start of a text, if there is one: `Z`, or a sign, two digits, perhaps a
colon, and two digits. -/
def leadingOffset (text : Text) : Text :=
  match text with
  | 'Z' :: _ => ['Z']
  | _ =>
    let sign := Slot.oneOf ['+', '-']
    match fill? [sign, .digit, .digit, .oneOf [':'], .digit, .digit] text with
    | some (offset, _) => offset
    | none => ((fill? [sign, .digit, .digit, .digit, .digit] text).elim [] Prod.fst)

/-- The stamp at the start of a line, behind a bracket or not. -/
def leadingStamp? (line : Text) : Option Text :=
  let text := match line with
    | '[' :: rest => rest
    | _ => line
  (fill? stampLayout text).map fun (moment, rest) =>
    let (fraction, rest) := leadingFraction rest
    moment ++ fraction ++ leadingOffset rest

/-- The instant that an optional text writes. -/
def instantOf? (text : Option Text) : Except LineFault (Option Calendar.Instant) :=
  match text with
  | none => .ok none
  | some text => (Calendar.Instant.ofText? text).mapError fun _ => .instantOutOfRange

/-- The instant of a line, from its fields or else from its start. -/
def inferredInstant? (raw : Text) (fields : Fields) :
    Except LineFault (Option Calendar.Instant) := do
  match ← instantOf? (fields.firstNonempty? timeKeys) with
  | some instant => .ok (some instant)
  | none => instantOf? (leadingStamp? (Text.stripStart raw))

/-- The record of a line.  A given level is taken as it is. -/
def ofLine (stack : Stack) (raw : Text) (lineNumber : Option Int) (level : Option Text) :
    Except LineFault Record := do
  let content ← Content.ofLine stack raw
  let level := level.orElse fun _ => (inferredLevel? raw content.fields).map Severity.name
  let timestamp ← inferredInstant? raw content.fields
  .ok ⟨raw, level, content.fields, timestamp, lineNumber, some content.message⟩

end Record

end LogSieve
