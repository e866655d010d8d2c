/-!
# Dates

Days are counted from the first of January of the year one, which is day zero.
The calendar has leap years by the Gregorian rule throughout, so 400 years are
146097 days and the date of a day number is found by taking off centuries of
four sizes.
-/

namespace LogSieve.Calendar

/-- A year, a month and a day; `isValid` says whether the calendar has it. -/
structure Date where
  year : Nat
  month : Nat
  day : Nat
  deriving DecidableEq

/-- Whether a year has a 29th of February. -/
def isLeapYear (year : Nat) : Bool := year % 4 == 0 && (year % 100 != 0 || year % 400 == 0)

/-- The lengths of the months of a year, in order. -/
def monthLengths (year : Nat) : List Nat :=
  [31, if isLeapYear year then 29 else 28, 31, 30, 31, 30, 31, 31, 30, 31, 30, 31]

/-- The greatest year of the calendar. -/
def lastYear : Nat := 9999

namespace Date

/-- The length of the month of a date. -/
def monthLength (date : Date) : Nat := (monthLengths date.year).getD (date.month - 1) 0

/-- Whether a date exists in the years 1 to 9999. -/
def isValid (date : Date) : Bool :=
  1 ≤ date.year && date.year ≤ lastYear && 1 ≤ date.month && date.month ≤ 12 &&
    1 ≤ date.day && date.day ≤ date.monthLength

end Date

/-- The number of days before the first of January of a year. -/
def daysBeforeYear (year : Nat) : Nat :=
  let past := year - 1
  past * 365 + past / 4 - past / 100 + past / 400

/-- The number of days from the first day of a year to the first day of a month. -/
def daysBeforeMonth (year month : Nat) : Nat :=
  ((monthLengths year).take (month - 1)).foldl (· + ·) 0

/-- The number of a date. -/
def Date.dayNumber (date : Date) : Nat :=
  daysBeforeYear date.year + daysBeforeMonth date.year date.month + (date.day - 1)

/-- The month and the day for a distance from the start of the year, given the number of the first
month and the lengths of the months from it on. -/
def monthAndDay (month distance : Nat) : List Nat → Nat × Nat
  | [] => (month, distance + 1)
  | length :: rest =>
    if distance < length then (month, distance + 1)
    else monthAndDay (month + 1) (distance - length) rest

/-- The date with a given number. -/
def Date.ofDayNumber (number : Nat) : Date :=
  let inCycle := number % 146097
  let inCentury := inCycle % 36524
  let inFour := inCentury % 1461
  let centuries := inCycle / 36524
  let years := inFour / 365
  let year := number / 146097 * 400 + centuries * 100 + inCentury / 1461 * 4 + years + 1
  -- The last day of a leap year at the end of a cycle is beyond four whole parts.
  if centuries = 4 ∨ years = 4 then ⟨year - 1, 12, 31⟩
  else
    let (month, day) := monthAndDay 1 (inFour % 365) (monthLengths year)
    ⟨year, month, day⟩

/-- The number of days in the years 1 to 9999. -/
def dayCount : Nat := daysBeforeYear (lastYear + 1)

/-- The day of the week of a day number, Monday being zero. -/
def weekday (number : Nat) : Nat := number % 7

/-- The number of the Monday of the first week of a year, the week that holds its first Thursday,
plus seven, so that it is never negative. -/
def firstWeekMonday (year : Nat) : Nat :=
  let newYear := daysBeforeYear year
  if weekday newYear > 3 then newYear + 14 - weekday newYear else newYear + 7 - weekday newYear

/-- Whether a year has a 53rd week. -/
def hasLongYear (year : Nat) : Bool :=
  let newYear := weekday (daysBeforeYear year)
  newYear == 3 || (newYear == 2 && isLeapYear year)

/-- The date of a day of a week of a year, years, weeks and days counted from one. -/
def Date.ofWeek? (year week day : Nat) : Option Date :=
  if 1 ≤ year ∧ (1 ≤ week ∧ week ≤ 52 ∨ week = 53 ∧ hasLongYear year) ∧ 1 ≤ day ∧ day ≤ 7 then
    some (Date.ofDayNumber (firstWeekMonday year + (week - 1) * 7 + (day - 1) - 7))
  else none

end LogSieve.Calendar
