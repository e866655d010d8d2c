import LogSieve.Calendar.Date
import LogSieve.Text.Basic

/-!
# Moments and instants

A moment is a date and a time of day on a local clock.  An instant is a point of
time; it is counted in microseconds from the start of the year one in universal
time and lies in the years 1 to 9999.  An offset, in microseconds east of
universal time, leads from a moment to an instant, unless the instant would fall
out of these years.
-/

namespace LogSieve.Calendar

/-- A date and a time of day. -/
structure Moment where
  date : Date
  hour : Nat
  minute : Nat
  second : Nat
  micro : Nat
  deriving DecidableEq

/-- The number of microseconds of a day. -/
def microsPerDay : Nat := 86400000000

/-- The number of microseconds of the years 1 to 9999. -/
def microsInCalendar : Nat := dayCount * microsPerDay

/-- A point of time, as microseconds since the start of the calendar. -/
structure Instant where
  micros : Nat
  inCalendar : micros < microsInCalendar
  deriving DecidableEq

namespace Moment

/-- Whether the date exists and the time is one that a clock shows. -/
def isValid (moment : Moment) : Bool :=
  moment.date.isValid && moment.hour < 24 && moment.minute < 60 && moment.second < 60 &&
    moment.micro < 1000000

/-- The microseconds since midnight. -/
def microsOfDay (moment : Moment) : Nat :=
  ((moment.hour * 60 + moment.minute) * 60 + moment.second) * 1000000 + moment.micro

/-- The microseconds since the start of the calendar, on the same clock. -/
def micros (moment : Moment) : Nat := moment.date.dayNumber * microsPerDay + moment.microsOfDay

/-- The moment that a clock shows so many microseconds after the start of the calendar. -/
def ofMicros (micros : Nat) : Moment :=
  let inDay := micros % microsPerDay
  let seconds := inDay / 1000000
  { date := Date.ofDayNumber (micros / microsPerDay)
    hour := seconds / 3600
    minute := seconds / 60 % 60
    second := seconds % 60
    micro := inDay % 1000000 }

/-- The instant at which a clock with the given offset shows a moment. -/
def toInstant? (moment : Moment) (offset : Int) : Option Instant :=
  let shifted := (moment.micros : Int) - offset
  if h : 0 ≤ shifted ∧ shifted < microsInCalendar then some ⟨shifted.toNat, by omega⟩ else none

/-- A moment in the long format of ISO 8601; a fraction of a second has six digits and is left out
when it is zero. -/
def iso (moment : Moment) : Text :=
  let field (width n : Nat) : Text := Text.padStart width '0' (Text.ofNat n)
  field 4 moment.date.year ++ '-' :: field 2 moment.date.month ++ '-' :: field 2 moment.date.day ++
    'T' :: field 2 moment.hour ++ ':' :: field 2 moment.minute ++ ':' :: field 2 moment.second ++
    if moment.micro = 0 then [] else '.' :: field 6 moment.micro

end Moment

namespace Instant

/-- An instant is before another one if fewer microseconds have passed. -/
instance : LT Instant := ⟨fun first second => first.micros < second.micros⟩

/-- An instant is not after another one if no more microseconds have passed. -/
instance : LE Instant := ⟨fun first second => first.micros ≤ second.micros⟩

instance (first second : Instant) : Decidable (first < second) :=
  inferInstanceAs (Decidable (first.micros < second.micros))

instance (first second : Instant) : Decidable (first ≤ second) :=
  inferInstanceAs (Decidable (first.micros ≤ second.micros))

/-- An instant in the long format of ISO 8601, in universal time. -/
def iso (instant : Instant) : Text := (Moment.ofMicros instant.micros).iso ++ "+00:00".toList

end Instant

/-- What is said when a moment falls out of the calendar in universal time. -/
def outOfRangeMessage : Text := "date value out of range".toList

end LogSieve.Calendar
