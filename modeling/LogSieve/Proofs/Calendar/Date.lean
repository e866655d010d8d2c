import LogSieve.Calendar.Date

/-!
# Dates and day numbers

The date of a day number has that number (`dayNumber_ofDayNumber`), and within the
years 1 to 9999 it exists; a date that exists has a number there
(`dayNumber_lt_dayCount`).  Within a year the months are taken off one by one
(`exists_monthAndDay`).  Across years the four sizes of centuries and leap periods
leave remainders that are whole in two cases only: the last day of 400 years and the
last day of four years, which are the last days of leap years.
-/

namespace LogSieve.Calendar

/-! ## Within a year -/

/-- The number of days of a year. -/
def yearLength (year : Nat) : Nat := (monthLengths year).foldl (· + ·) 0

/-- The day and the month that a distance from the start of some months leads to, the days
before them counted along. -/
theorem exists_monthAndDay {lengths : List Nat} {before distance : Nat}
    (h : before + distance < lengths.foldl (· + ·) before) (month : Nat) :
    ∃ index day, index < lengths.length ∧ day < lengths.getD index 0 ∧
      (lengths.take index).foldl (· + ·) before + day = before + distance ∧
      monthAndDay month distance lengths = (month + index, day + 1) := by
  -- over the months that are left: those taken off are in `before`
  induction lengths generalizing before month distance with
  | nil =>
      rw [List.foldl_nil] at h
      omega
  | cons length rest ih =>
      rw [monthAndDay]
      split
      · rename_i hinside
        exact ⟨0, distance, Nat.succ_pos _, hinside, rfl, rfl⟩
      · rename_i hbeyond
        have hrest : before + length + (distance - length) = before + distance := by omega
        rw [← hrest, List.foldl_cons] at h
        obtain ⟨index, day, hindex, hday, hdistance, hread⟩ := ih h (month + 1)
        refine ⟨index + 1, day, Nat.succ_lt_succ hindex, hday, ?_, ?_⟩
        · rw [List.take_succ_cons, List.foldl_cons, hdistance, hrest]
        · rw [hread, Nat.add_right_comm]
          rfl

theorem exists_monthAndDay_of_lt {year distance : Nat} (h : distance < yearLength year) :
    ∃ index day, index < (monthLengths year).length ∧ day < (monthLengths year).getD index 0 ∧
      daysBeforeMonth year (1 + index) + day = distance ∧
      monthAndDay 1 distance (monthLengths year) = (1 + index, day + 1) := by
  rw [← Nat.zero_add distance] at h
  obtain ⟨index, day, hindex, hday, hdistance, hread⟩ := exists_monthAndDay h 1
  rw [Nat.zero_add] at hdistance
  refine ⟨index, day, hindex, hday, ?_, hread⟩
  rw [daysBeforeMonth, Nat.add_sub_cancel_left, hdistance]

theorem length_monthLengths (year : Nat) : (monthLengths year).length = 12 := rfl

theorem yearLength_eq (year : Nat) : yearLength year = if isLeapYear year then 366 else 365 := by
  unfold yearLength monthLengths
  split <;> rfl

/-! ## Across years -/

theorem isLeapYear_iff {year : Nat} :
    isLeapYear year = true ↔ year % 4 = 0 ∧ (year % 100 ≠ 0 ∨ year % 400 = 0) := by
  simp [isLeapYear]

/-- The 31st of December of a leap year is its 366th day. -/
theorem dayNumber_lastOfLeapYear {year : Nat} (h : isLeapYear year = true) :
    (Date.mk year 12 31).dayNumber = daysBeforeYear year + 365 := by
  have hmonth : daysBeforeMonth year 12 = 335 := by
    simp [daysBeforeMonth, monthLengths, h]
  simp only [Date.dayNumber, hmonth]

namespace Date

theorem isValid_iff {date : Date} :
    date.isValid = true ↔ (1 ≤ date.year ∧ date.year ≤ lastYear) ∧
      (1 ≤ date.month ∧ date.month ≤ 12) ∧ 1 ≤ date.day ∧ date.day ≤ date.monthLength := by
  simp [isValid, and_assoc]

/-- The number of the date that a day of a year is. -/
theorem dayNumber_of_monthAndDay {year distance : Nat} (h : distance < yearLength year) :
    (Date.mk year (monthAndDay 1 distance (monthLengths year)).1
      (monthAndDay 1 distance (monthLengths year)).2).dayNumber =
        daysBeforeYear year + distance := by
  obtain ⟨index, day, -, -, hdistance, hread⟩ := exists_monthAndDay_of_lt h
  simp only [hread, dayNumber]
  omega

theorem isValid_of_monthAndDay {year distance : Nat} (hyear : 1 ≤ year ∧ year ≤ lastYear)
    (h : distance < yearLength year) :
    (Date.mk year (monthAndDay 1 distance (monthLengths year)).1
      (monthAndDay 1 distance (monthLengths year)).2).isValid = true := by
  obtain ⟨index, day, hindex, hday, -, hread⟩ := exists_monthAndDay_of_lt h
  rw [length_monthLengths] at hindex
  simp only [hread, isValid, monthLength, Nat.add_sub_cancel_left, Bool.and_eq_true,
    decide_eq_true_eq]
  omega

/-! ## The parts of a day number -/

/-- A day number as cycles of 400 years, centuries, periods of four years, years and days. -/
structure Parts where
  cycles : Nat
  centuries : Nat
  fours : Nat
  years : Nat
  days : Nat

namespace Parts

/-- The day number of some parts. -/
def number (parts : Parts) : Nat :=
  parts.cycles * 146097 + parts.centuries * 36524 + parts.fours * 1461 + parts.years * 365 +
    parts.days

/-- The year that some parts lie in. -/
def year (parts : Parts) : Nat :=
  parts.cycles * 400 + parts.centuries * 100 + parts.fours * 4 + parts.years + 1

/-- The parts of a day number. -/
def ofNumber (number : Nat) : Parts where
  cycles := number / 146097
  centuries := number % 146097 / 36524
  fours := number % 146097 % 36524 / 1461
  years := number % 146097 % 36524 % 1461 / 365
  days := number % 146097 % 36524 % 1461 % 365

/-- What the parts of a day number keep to. -/
structure AreProper (parts : Parts) : Prop where
  centuries : parts.centuries < 4 ∨
    parts.centuries = 4 ∧ parts.fours = 0 ∧ parts.years = 0 ∧ parts.days = 0
  fours : parts.fours < 25
  years : parts.years < 4 ∨ parts.years = 4 ∧ parts.fours < 24 ∧ parts.days = 0
  days : parts.days < 365

theorem number_ofNumber (number : Nat) : (ofNumber number).number = number := by
  simp only [Parts.number, ofNumber]
  omega

theorem areProper_ofNumber (number : Nat) : (ofNumber number).AreProper := by
  constructor <;> simp only [ofNumber] <;> omega

variable {parts : Parts}

theorem AreProper.days_lt_yearLength (h : parts.AreProper) :
    parts.days < yearLength parts.year := by
  have hdays := h.days
  rw [yearLength_eq]
  split <;> omega

/-- Days that fill no part whole are counted from the first day of their year. -/
theorem daysBeforeYear_year (h : parts.AreProper) (hcenturies : parts.centuries ≠ 4)
    (hyears : parts.years ≠ 4) : daysBeforeYear parts.year + parts.days = parts.number := by
  obtain ⟨hcenturiesLe, hfours, hyearsLe, hdays⟩ := h
  simp only [daysBeforeYear, Parts.year, Parts.number, Nat.add_sub_cancel]
  omega

/-- A part that comes out whole ends a leap year. -/
theorem isLeapYear_year (h : parts.AreProper) (hwhole : parts.centuries = 4 ∨ parts.years = 4) :
    isLeapYear (parts.year - 1) = true := by
  obtain ⟨hcenturies, hfours, hyears, -⟩ := h
  rw [isLeapYear_iff, Parts.year]
  omega

theorem daysBeforeYear_whole (h : parts.AreProper)
    (hwhole : parts.centuries = 4 ∨ parts.years = 4) :
    daysBeforeYear (parts.year - 1) + 365 = parts.number := by
  obtain ⟨hcenturies, hfours, hyears, -⟩ := h
  simp only [daysBeforeYear, Parts.year, Parts.number]
  omega

theorem year_le_lastYear (h : parts.AreProper) (hcount : parts.number < dayCount) :
    parts.year ≤ lastYear := by
  have hdays : dayCount = 3652059 := rfl
  obtain ⟨hcenturies, hfours, hyears, -⟩ := h
  rw [hdays, Parts.number] at hcount
  rw [Parts.year, lastYear]
  omega

end Parts

theorem ofDayNumber_eq (number : Nat) :
    ofDayNumber number =
      let parts := Parts.ofNumber number
      if parts.centuries = 4 ∨ parts.years = 4 then ⟨parts.year - 1, 12, 31⟩
      else
        let (month, day) := monthAndDay 1 parts.days (monthLengths parts.year)
        ⟨parts.year, month, day⟩ :=
  rfl

theorem dayNumber_ofDayNumber (number : Nat) : (ofDayNumber number).dayNumber = number := by
  have hproper := Parts.areProper_ofNumber number
  have hnumber := Parts.number_ofNumber number
  rw [ofDayNumber_eq]
  simp only
  split
  · -- the years stop short of this day: it is the last one of the year before
    rename_i hwhole
    rw [dayNumber_lastOfLeapYear (Parts.isLeapYear_year hproper hwhole),
      Parts.daysBeforeYear_whole hproper hwhole, hnumber]
  · rename_i hwhole
    rw [dayNumber_of_monthAndDay hproper.days_lt_yearLength,
      Parts.daysBeforeYear_year hproper (fun h => hwhole (.inl h)) (fun h => hwhole (.inr h)),
      hnumber]

/-- A day number of the calendar is that of a date that exists. -/
theorem isValid_ofDayNumber {number : Nat} (h : number < dayCount) :
    (ofDayNumber number).isValid = true := by
  have hproper := Parts.areProper_ofNumber number
  rw [← Parts.number_ofNumber number] at h
  have hyear := Parts.year_le_lastYear hproper h
  rw [ofDayNumber_eq]
  simp only
  split
  · rename_i hwhole
    have hlast : (Parts.ofNumber number).year - 1 ≤ lastYear := by omega
    have hfirst : 1 ≤ (Parts.ofNumber number).year - 1 := by
      rw [Parts.year]
      omega
    have hlength : (Date.mk ((Parts.ofNumber number).year - 1) 12 31).monthLength = 31 := rfl
    simp [isValid, hfirst, hlast, hlength]
  · exact isValid_of_monthAndDay ⟨Nat.succ_pos _, hyear⟩ hproper.days_lt_yearLength

/-! ## The calendar -/

/-- A month is a part of its year. -/
theorem daysBeforeMonth_add_monthLength_le {date : Date} (h : date.month ≤ 12) :
    daysBeforeMonth date.year date.month + date.monthLength ≤ yearLength date.year := by
  have hmonths : ∀ leap : Bool, ∀ index < 12,
      let lengths := [31, if leap then 29 else 28, 31, 30, 31, 30, 31, 31, 30, 31, 30, 31]
      (lengths.take index).foldl (· + ·) 0 + lengths.getD index 0 ≤
        lengths.foldl (· + ·) 0 := by
    decide
  exact hmonths (isLeapYear date.year) (date.month - 1) (by omega)

/-- A date lies in its year. -/
theorem dayNumber_lt_of_isValid {date : Date} (h : date.isValid = true) :
    date.dayNumber < daysBeforeYear date.year + yearLength date.year := by
  simp only [isValid, Bool.and_eq_true, decide_eq_true_eq] at h
  have hmonth : daysBeforeMonth date.year date.month + date.monthLength ≤ yearLength date.year :=
    daysBeforeMonth_add_monthLength_le (by omega)
  rw [dayNumber]
  omega

/-- The number of a date that exists is one of the calendar. -/
theorem dayNumber_lt_dayCount {date : Date} (h : date.isValid = true) :
    date.dayNumber < dayCount := by
  have hday := dayNumber_lt_of_isValid h
  have hcount : dayCount = 3652059 := rfl
  have hlast : lastYear = 9999 := rfl
  have hlength := yearLength_eq date.year
  have hleap : isLeapYear 9999 = false := rfl
  simp only [isValid, Bool.and_eq_true, decide_eq_true_eq] at h
  rw [daysBeforeYear] at hday
  by_cases hyear : date.year = 9999
  · rw [hyear, hleap] at hlength
    simp only [hyear, hlength, Bool.false_eq_true, if_false] at hday
    omega
  · have hle : yearLength date.year ≤ 366 := by
      rw [hlength]
      split <;> omega
    omega

/-- A year away from its ends, a date is not the first one of the calendar or the last. -/
theorem dayNumber_inside_of_isValid {date : Date} (h : date.isValid = true) (hfirst : 2 ≤ date.year)
    (hlast : date.year < lastYear) : 1 ≤ date.dayNumber ∧ date.dayNumber + 1 < dayCount := by
  have hday := dayNumber_lt_of_isValid h
  have hcount : dayCount = 3652059 := rfl
  have hyears : lastYear = 9999 := rfl
  have hlength : yearLength date.year ≤ 366 := by
    rw [yearLength_eq]
    split <;> omega
  constructor
  · rw [dayNumber, daysBeforeYear]
    omega
  · rw [daysBeforeYear] at hday
    omega

end Date

end LogSieve.Calendar
