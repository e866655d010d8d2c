import LogSieve.Calendar.Instant
import LogSieve.FaultKind
import LogSieve.Text.Digit
import LogSieve.Text.Quoted

/-!
# Time stamps

A stamp is a moment written in ISO 8601, perhaps with an offset.  Dates are
written `YYYY-MM-DD`, `YYYYMMDD`, or by weeks (`YYYY-Www-d`, `YYYY-Www`, and both
without dashes); any one character separates date and time.  Times may stop after
hours, minutes or seconds, with colons or without, and end in a fraction; a sign
opens the offset, which is written like a time, and `Z` is an offset of zero.

The reading is lenient in a few places where the text is still unambiguous: one
stray character may stand between the time and its offset, and digits of a
fraction beyond the sixth are dropped.
-/

namespace LogSieve.Calendar

/-- Why a text is no stamp. -/
inductive StampFault where
  | malformed
  /-- The offset is a whole day or more; it is given in microseconds. -/
  | offsetTooLarge (micros : Int)
  | yearOutOfRange (year : Nat)
  | monthOutOfRange
  | dayOutOfRange
  | hourOutOfRange
  | minuteOutOfRange
  | secondOutOfRange
  deriving DecidableEq

/-- A moment with the offset of its clock, in microseconds, if one is known. -/
structure Stamp where
  moment : Moment
  offset : Option Int
  deriving DecidableEq

namespace Stamp

/-! ## Digits -/

/-- The number that exactly `count` ASCII digits write at the start of a text, and the rest. -/
def digits? (count : Nat) (text : Text) : Option (Nat × Text) :=
  let run := text.take count
  if run.length = count ∧ run.all Text.isAsciiDigit then
    (Text.decimal? run).map fun value => (value, text.drop count)
  else none

/-! ## Dates -/

/-- How many characters of a text with at least seven characters are the date. -/
def dateLength (text : Text) : Nat :=
  let digitAt (i : Nat) : Bool := (text[i]?).any Text.isAsciiDigit
  if text.length = 7 then 7
  else if text[4]? = some '-' then
    if text[5]? = some 'W' then
      -- `YYYY-Www-d` or `YYYY-Www`; a digit too many means that the dash separates a time.
      if text[8]? = some '-' ∧ ¬ digitAt 10 then 10 else 8
    else 10
  else if text[4]? = some 'W' then
    -- `YYYYWww` or `YYYYWwwd`: times come in pairs of digits, so the parity decides.
    let stop := 7 + ((text.drop 7).takeWhile Text.isAsciiDigit).length
    if stop < 9 then stop else if stop % 2 = 0 then 7 else 8
  else 8

/-- The date of a week, after the letter `W`. -/
def weekDate? (year : Nat) (dashed : Bool) (text : Text) : Option Date :=
  match digits? 2 text with
  | none => none
  | some (week, []) => Date.ofWeek? year week 1
  | some (week, rest) =>
    let day := match dashed, rest with
      | true, '-' :: rest => digits? 1 rest
      | true, _ => none
      | false, rest => digits? 1 rest
    day.bind fun (day, _) => Date.ofWeek? year week day

/-- The year, month and day of a date text; whether they exist is not asked yet. -/
def date? (text : Text) : Option Date := do
  let (year, rest) ← digits? 4 text
  let (dashed, rest) := match rest with
    | '-' :: rest => (true, rest)
    | _ => (false, rest)
  match rest with
  | 'W' :: rest => weekDate? year dashed rest
  | _ =>
    let (month, rest) ← digits? 2 rest
    let rest ← match dashed, rest with
      | true, '-' :: rest => some rest
      | true, _ => none
      | false, rest => some rest
    let (day, _) ← digits? 2 rest
    return ⟨year, month, day⟩

/-! ## Times -/

/-- Hours, minutes, seconds and microseconds as they were written. -/
structure Clock where
  hour : Nat
  minute : Nat
  second : Nat
  micro : Nat
  deriving DecidableEq

/-- The parts of a time: up to three numbers of two digits and the digits of a fraction. -/
structure ClockParts where
  numbers : List Nat
  fraction : Nat
  /-- Something that belongs to no part stands between the time and what follows. -/
  leftOver : Bool

/-- The clock of the parts of a time; parts that are not written are zero. -/
def ClockParts.clock (parts : ClockParts) : Clock :=
  ⟨parts.numbers.getD 0 0, parts.numbers.getD 1 0, parts.numbers.getD 2 0, parts.fraction⟩

/-- A fraction of a second after its point, in microseconds.  Its first six characters must be
digits; later digits are dropped. -/
def fraction? (numbers : List Nat) (text : Text) : Option ClockParts :=
  let count := min 6 text.length
  (digits? count text).map fun (value, rest) =>
    let after := rest.dropWhile Text.isAsciiDigit
    ⟨numbers, value * Nat.pow 10 (6 - count), (after.head?).any (· != '\x00')⟩

/-- The parts of a time text: `remaining` numbers may still come, after those in `numbers`.
`colons` is known from the first number on. -/
def clockParts? (numbers : List Nat) (colons : Option Bool) : Nat → Text → Option ClockParts
  | 0, text => fraction? numbers text
  | remaining + 1, text =>
    match digits? 2 text with
    | none => none
    | some (value, rest) =>
      let numbers := numbers ++ [value]
      match rest with
      | [] => some ⟨numbers, 0, false⟩
      | [c] => if c.toNat < 128 then some ⟨numbers, 0, c != '\x00'⟩ else none
      | c :: after =>
        let colons := colons.getD (c == ':')
        if colons && c == ':' then clockParts? numbers (some colons) remaining after
        else if c == '.' || c == ',' then fraction? numbers after
        else if colons then none
        else clockParts? numbers (some colons) remaining (c :: after)

/-- The microseconds that an offset text means, without its sign.  Microseconds count only beside
an offset of a second or more. -/
def offset? (text : Text) : Option Int :=
  match clockParts? [] none 3 text with
  | some parts =>
    if parts.leftOver then none
    else
      let clock := parts.clock
      let seconds := (clock.hour * 60 + clock.minute) * 60 + clock.second
      some (if seconds = 0 then 0 else Int.ofNat (seconds * 1000000 + clock.micro))
  | none => none

/-- Whether a character opens an offset. -/
def opensOffset (c : Char) : Bool := c == '+' || c == '-' || c == 'Z'

/-- The clock and the offset of a time text. -/
def time? (text : Text) : Option (Clock × Option Int) :=
  let time := text.takeWhile fun c => !opensOffset c
  match clockParts? [] none 3 time, text.dropWhile fun c => !opensOffset c with
  | none, _ => none
  | some parts, [] => if parts.leftOver then none else some (parts.clock, none)
  | some parts, 'Z' :: rest => if rest.isEmpty then some (parts.clock, some 0) else none
  | some parts, sign :: rest =>
    (offset? rest).map fun micros => (parts.clock, some (if sign = '-' then -micros else micros))

/-! ## Stamps -/

/-- The date and the time of a stamp, as they were written. -/
def parts? (text : Text) : Option (Date × Clock × Option Int) :=
  if text.length < 7 then none
  else
    let length := dateLength text
    match date? (text.take length), text.drop length with
    | none, _ => none
    | some date, [] => some (date, ⟨0, 0, 0, 0⟩, none)
    | some date, _ :: time => (time? time).map fun read => (date, read)

/-- The first of the parts of a stamp that lies outside of its range. -/
def rangeFault? (date : Date) (clock : Clock) (offset : Option Int) : Option StampFault :=
  let offset := offset.getD 0
  if offset.natAbs ≥ microsPerDay then some (.offsetTooLarge offset)
  else if date.year < 1 ∨ lastYear < date.year then some (.yearOutOfRange date.year)
  else if date.month < 1 ∨ 12 < date.month then some .monthOutOfRange
  else if date.day < 1 ∨ date.monthLength < date.day then some .dayOutOfRange
  else if 24 ≤ clock.hour then some .hourOutOfRange
  else if 60 ≤ clock.minute then some .minuteOutOfRange
  else if 60 ≤ clock.second then some .secondOutOfRange
  else none

/-- The stamp that a text writes. -/
def ofText (text : Text) : Except StampFault Stamp :=
  match parts? text with
  | none => .error .malformed
  | some (date, clock, offset) =>
    match rangeFault? date clock offset with
    | some fault => .error fault
    | none => .ok ⟨⟨date, clock.hour, clock.minute, clock.second, clock.micro⟩, offset⟩

/-- The instant of a stamp; a stamp without an offset is on a clock with the given one. -/
def toInstant? (defaultOffset : Int) (stamp : Stamp) : Option Instant :=
  stamp.moment.toInstant? (stamp.offset.getD defaultOffset)

end Stamp

/-- An offset as days, seconds and microseconds; zero parts are left out. -/
def durationText (micros : Int) : Text :=
  let days := Int.fdiv micros microsPerDay
  let inDay := (Int.fmod micros microsPerDay).toNat
  let part (name : String) (value : Int) : List Text :=
    if value = 0 then [] else [name.toList ++ '=' :: Text.ofInt value]
  let parts := part "days" days ++ part "seconds" (Int.ofNat (inDay / 1000000)) ++
    part "microseconds" (Int.ofNat (inDay % 1000000))
  "datetime.timedelta(".toList ++ (if parts.isEmpty then ['0'] else Text.joinWith ", ".toList parts)
    ++ [')']

/-- The kind of a fault of a stamp. -/
def StampFault.kind (_ : StampFault) : FaultKind := .value

/-- What is said of a text that is no stamp. -/
def StampFault.message (text : Text) : StampFault → Text
  | malformed => "Invalid isoformat string: ".toList ++ text.quoted
  | offsetTooLarge micros =>
    ("offset must be a timedelta strictly between -timedelta(hours=24) and " ++
      "timedelta(hours=24), not ").toList ++ durationText micros ++ ['.']
  | yearOutOfRange year => "year ".toList ++ Text.ofNat year ++ " is out of range".toList
  | monthOutOfRange => "month must be in 1..12".toList
  | dayOutOfRange => "day is out of range for month".toList
  | hourOutOfRange => "hour must be in 0..23".toList
  | minuteOutOfRange => "minute must be in 0..59".toList
  | secondOutOfRange => "second must be in 0..59".toList

end LogSieve.Calendar
