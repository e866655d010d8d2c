import LogSieve.Proofs.Calendar.Spelling

/-!
# Stamps of digits alone

A stamp needs neither dashes nor colons, and any character may stand between its date and
its time, also a digit.  So a number may be a stamp: eight digits that are a date, one
digit that is passed over, and a time in two, four, six or more digits
(`WritesMoment`).  No other number is one (`ofText?_eq_ok_none_iff`).

A time in digits is taken apart in pairs (`clockParts?_cases`); what is left over at its
end must be no digit at all or, behind the seconds, a fraction, which has then lost its
point and must be longer than one digit.
-/

namespace LogSieve.Calendar

namespace Stamp

/-- Digits alone that write a time: hours, hours and minutes, and hours, minutes and seconds,
perhaps with at least two digits of a fraction. -/
inductive WritesClock : Text → Clock → Prop
  | hours (hour : Nat) : WritesClock (Text.padded 2 hour) ⟨hour, 0, 0, 0⟩
  | minutes (hour minute : Nat) :
      WritesClock (Text.padded 2 hour ++ Text.padded 2 minute) ⟨hour, minute, 0, 0⟩
  | seconds (hour minute second : Nat) :
      WritesClock (Text.padded 2 hour ++ (Text.padded 2 minute ++ Text.padded 2 second))
        ⟨hour, minute, second, 0⟩
  | fraction (hour minute second : Nat) {digits : Text}
      (hdigits : ∀ c ∈ digits, Text.isAsciiDigit c = true) (hlength : 2 ≤ digits.length) :
      WritesClock
        (Text.padded 2 hour ++ (Text.padded 2 minute ++ (Text.padded 2 second ++ digits)))
        ⟨hour, minute, second, fractionMicros digits⟩

/-- Digits alone that write a moment: a date, any one character and a time. -/
inductive WritesMoment : Text → Moment → Prop
  | intro (date : Date) (separator : Char) {time : Text} {clock : Clock}
      (hclock : WritesClock time clock) (hvalid : (momentOf date clock).isValid = true) :
      WritesMoment
        (Text.padded 4 date.year ++
          (Text.padded 2 date.month ++ (Text.padded 2 date.day ++ separator :: time)))
        (momentOf date clock)

/-! ## Times -/

section

variable {numbers : List Nat} {colons : Option Bool} {remaining : Nat} {time : Text}
  {parts : ClockParts}

/-- The first number of a time in digits, and whether it is the last one. -/
theorem clockParts?_cases (hcolons : colons ≠ some true)
    (hdigits : ∀ c ∈ time, Text.isAsciiDigit c = true)
    (h : clockParts? numbers colons (remaining + 1) time = some parts)
    (hwhole : parts.leftOver = false) :
    ∃ n, (Text.ofNat n).length ≤ 2 ∧
      (time = Text.padded 2 n ∧ parts = ⟨numbers ++ [n], 0, false⟩ ∨
        ∃ rest, time = Text.padded 2 n ++ rest ∧ 2 ≤ rest.length ∧
          clockParts? (numbers ++ [n]) (some false) remaining rest = some parts) := by
  have hlength : 2 ≤ time.length := by
    by_contra hshort
    have hnone : digits? 2 time = none := by
      rw [digits?, List.length_take]
      exact if_neg fun hrun => hshort (by omega)
    rw [clockParts?, hnone] at h
    cases h
  obtain ⟨n, hfits, htime⟩ := Text.exists_eq_padded_append (by decide) hlength hdigits
  have hrest : ∀ c ∈ time.drop 2, Text.isAsciiDigit c = true :=
    fun c hc => hdigits c (List.mem_of_mem_drop hc)
  refine ⟨n, hfits, ?_⟩
  rw [htime] at h
  cases hdrop : time.drop 2 with
  | nil =>
      rw [hdrop, List.append_nil] at htime h
      rw [clockParts?_end hfits] at h
      exact .inl ⟨htime, (Option.some.inj h).symm⟩
  | cons c others =>
      rw [hdrop] at h hrest htime
      cases others with
      | nil =>
          -- a single digit more is left over
          have hc : c ≠ '\x00' := Text.isAsciiDigit_ne (hrest c List.mem_cons_self) (by decide)
          have hread := digits?_padded hfits [c]
          simp only [clockParts?, hread] at h
          split at h
          · rw [← Option.some.inj h] at hwhole
            simp [hc] at hwhole
          · cases h
      | cons d more =>
          rw [clockParts?_packed hcolons hfits hrest (by simp)] at h
          exact .inr ⟨c :: d :: more, htime, by simp, h⟩

end

/-- What stands behind a number in a text of digits is digits too. -/
theorem isAsciiDigit_behind {n : Nat} {rest : Text}
    (h : ∀ c ∈ Text.padded 2 n ++ rest, Text.isAsciiDigit c = true) :
    ∀ c ∈ rest, Text.isAsciiDigit c = true :=
  (List.forall_mem_append.mp h).2

theorem WritesClock.of_clockParts? {time : Text}
    (hdigits : ∀ c ∈ time, Text.isAsciiDigit c = true) {parts : ClockParts}
    (h : clockParts? [] none 3 time = some parts) (hwhole : parts.leftOver = false) :
    WritesClock time parts.clock := by
  obtain ⟨hour, -, ⟨rfl, rfl⟩ | ⟨afterHour, rfl, -, hminute⟩⟩ :=
    clockParts?_cases (by decide) hdigits h hwhole
  · exact .hours hour
  have hpastHour := isAsciiDigit_behind hdigits
  obtain ⟨minute, -, ⟨rfl, rfl⟩ | ⟨afterMinute, rfl, -, hsecond⟩⟩ :=
    clockParts?_cases (by decide) hpastHour hminute hwhole
  · exact .minutes hour minute
  have hpastMinute := isAsciiDigit_behind hpastHour
  obtain ⟨second, -, ⟨rfl, rfl⟩ | ⟨digits, rfl, hlength, hfraction⟩⟩ :=
    clockParts?_cases (by decide) hpastMinute hsecond hwhole
  · exact .seconds hour minute second
  · have hrest := isAsciiDigit_behind hpastMinute
    have hne : digits ≠ [] := List.ne_nil_of_length_pos (by omega)
    rw [clockParts?, fraction?_digits hne hrest] at hfraction
    rw [← Option.some.inj hfraction]
    exact .fraction hour minute second hrest hlength

theorem WritesClock.isAsciiDigit {time : Text} {clock : Clock} (h : WritesClock time clock) :
    ∀ c ∈ time, Text.isAsciiDigit c = true := by
  have hnumber : ∀ n, ∀ c ∈ Text.padded 2 n, Text.isAsciiDigit c = true :=
    fun n _ => Text.isAsciiDigit_of_mem_padded
  cases h with
  | hours hour => exact hnumber hour
  | minutes hour minute => exact List.forall_mem_append.mpr ⟨hnumber hour, hnumber minute⟩
  | seconds hour minute second =>
      exact List.forall_mem_append.mpr
        ⟨hnumber hour, List.forall_mem_append.mpr ⟨hnumber minute, hnumber second⟩⟩
  | fraction hour minute second hdigits =>
      exact List.forall_mem_append.mpr ⟨hnumber hour, List.forall_mem_append.mpr
        ⟨hnumber minute, List.forall_mem_append.mpr ⟨hnumber second, hdigits⟩⟩⟩

/-- The reader of times finds the clock that digits write. -/
theorem WritesClock.clockParts?_eq {time : Text} {clock : Clock} (h : WritesClock time clock)
    (hhour : (Text.ofNat clock.hour).length ≤ 2) (hminute : (Text.ofNat clock.minute).length ≤ 2)
    (hsecond : (Text.ofNat clock.second).length ≤ 2) :
    ∃ parts, clockParts? [] none 3 time = some parts ∧ parts.leftOver = false ∧
      parts.clock = clock := by
  have hpass := h.isAsciiDigit
  have hlong : ∀ {n : Nat} (rest : Text), (Text.ofNat n).length ≤ 2 →
      2 ≤ (Text.padded 2 n ++ rest).length := by
    intro n rest hfits
    rw [List.length_append, Text.length_padded hfits]
    exact Nat.le_add_right 2 _
  cases h with
  | hours hour => exact ⟨_, clockParts?_end hhour, rfl, rfl⟩
  | minutes hour minute =>
      have hrest := isAsciiDigit_behind hpass
      refine ⟨⟨[hour, minute], 0, false⟩, ?_, rfl, rfl⟩
      rw [clockParts?_packed (by decide) hhour hrest (Text.length_padded hminute).ge,
        clockParts?_end hminute]
      rfl
  | seconds hour minute second =>
      have hrest := isAsciiDigit_behind hpass
      refine ⟨⟨[hour, minute, second], 0, false⟩, ?_, rfl, rfl⟩
      rw [clockParts?_packed (by decide) hhour hrest (hlong _ hminute),
        clockParts?_packed (by decide) hminute (isAsciiDigit_behind hrest)
          (Text.length_padded hsecond).ge,
        clockParts?_end hsecond]
      rfl
  | @fraction hour minute second digits hdigits hlength =>
      have hne := List.ne_nil_of_length_pos (Nat.lt_of_lt_of_le Nat.two_pos hlength)
      have hrest := isAsciiDigit_behind hpass
      refine ⟨⟨[hour, minute, second], fractionMicros digits, false⟩, ?_, rfl, rfl⟩
      rw [clockParts?_packed (by decide) hhour hrest (hlong _ hminute),
        clockParts?_packed (by decide) hminute (isAsciiDigit_behind hrest) (hlong _ hsecond),
        clockParts?_packed (by decide) hsecond hdigits hlength, clockParts?,
        fraction?_digits hne hdigits]
      rfl

/-- A time in digits has no offset. -/
theorem time?_eq_some_iff {time : Text} (hdigits : ∀ c ∈ time, Text.isAsciiDigit c = true)
    {read : Clock × Option Int} :
    time? time = some read ↔
      ∃ parts, clockParts? [] none 3 time = some parts ∧ parts.leftOver = false ∧
        (parts.clock, none) = read := by
  have hclock : ∀ c ∈ time, opensOffset c = false := by
    intro c hc
    have hother : c ∉ ['+', '-', 'Z'] := Text.isAsciiDigit_not_mem (hdigits c hc) (by decide)
    simpa [opensOffset, not_or, and_assoc] using hother
  rw [time?_of_clock hclock]
  cases clockParts? [] none 3 time with
  | none => simp
  | some parts => cases hleft : parts.leftOver <;> simp [hleft]

/-! ## Dates -/

theorem date?_digits {date : Date} (h : date.Fits) :
    date? (Text.padded 4 date.year ++ (Text.padded 2 date.month ++ Text.padded 2 date.day)) =
      some date := by
  obtain ⟨c, more, hmonth, hc⟩ := Text.exists_padded_eq_cons 2 date.month
  have hdash : c ≠ '-' := Text.isAsciiDigit_ne hc (by decide)
  have hweek : c ≠ 'W' := Text.isAsciiDigit_ne hc (by decide)
  have hyears := digits?_padded h.year (Text.padded 2 date.month ++ Text.padded 2 date.day)
  have hmonths := digits?_padded h.month (Text.padded 2 date.day)
  have hdays := digits?_padded h.day []
  rw [List.append_nil] at hdays
  rw [hmonth, List.cons_append] at hyears hmonths ⊢
  simp [date?, hyears, hmonths, hdays, hdash, hweek]

theorem parts?_digits {date : Date} (h : date.Fits) (separator : Char) (time : Text) :
    parts? (Text.padded 4 date.year ++
        (Text.padded 2 date.month ++ (Text.padded 2 date.day ++ separator :: time))) =
      (time? time).map fun read => (date, read) := by
  have hyear := Text.length_padded h.year
  have hmonth := Text.length_padded h.month
  have hday := Text.length_padded h.day
  have hlength : (Text.padded 4 date.year ++
      (Text.padded 2 date.month ++ Text.padded 2 date.day)).length = 8 := by
    rw [List.length_append, List.length_append, hyear, hmonth, hday]
  obtain ⟨c, more, hfifth, hc⟩ := Text.exists_padded_eq_cons 2 date.month
  have hdash : c ≠ '-' := Text.isAsciiDigit_ne hc (by decide)
  have hweek : c ≠ 'W' := Text.isAsciiDigit_ne hc (by decide)
  have htext : Text.padded 4 date.year ++
      (Text.padded 2 date.month ++ (Text.padded 2 date.day ++ separator :: time)) =
        (Text.padded 4 date.year ++ (Text.padded 2 date.month ++ Text.padded 2 date.day)) ++
          separator :: time := by
    simp only [List.append_assoc]
  have hcharacter : ((Text.padded 4 date.year ++ (Text.padded 2 date.month ++
      Text.padded 2 date.day)) ++ separator :: time)[4]? = some c := by
    rw [hfifth, List.append_assoc, List.getElem?_append_right (by omega), hyear]
    rfl
  have hplace : dateLength ((Text.padded 4 date.year ++ (Text.padded 2 date.month ++
      Text.padded 2 date.day)) ++ separator :: time) = 8 := by
    have hlong : ((Text.padded 4 date.year ++ (Text.padded 2 date.month ++
        Text.padded 2 date.day)) ++ separator :: time).length ≠ 7 := by
      rw [List.length_append, hlength]
      omega
    simp only [dateLength, hcharacter, hlong, if_false, Option.some.injEq, hdash, hweek]
  rw [htext, parts?, if_neg (by rw [List.length_append, hlength]; omega)]
  simp only [hplace, List.take_left' hlength, List.drop_left' hlength, date?_digits h]

/-! ## Stamps -/

/-- The parts of a stamp are those of a moment that exists. -/
theorem rangeFault?_eq_none_iff {date : Date} {clock : Clock} (hmicro : clock.micro < 1000000) :
    rangeFault? date clock none = none ↔ (momentOf date clock).isValid = true := by
  have hoffset : ¬ (0 : Int).natAbs ≥ microsPerDay := by decide
  rw [Moment.isValid_iff, Date.isValid_iff]
  simp only [rangeFault?, Option.getD_none, if_neg hoffset, momentOf]
  constructor
  · intro h
    repeat' split at h
    all_goals first | omega | cases h
  · intro h
    rw [if_neg (by omega), if_neg (by omega), if_neg (by omega), if_neg (by omega),
      if_neg (by omega), if_neg (by omega)]

theorem fractionMicros_lt {digits : Text} (h : ∀ c ∈ digits, Text.isAsciiDigit c = true) :
    fractionMicros digits < 1000000 := by
  have hlength : (digits.take 6).length = min 6 digits.length := List.length_take
  have hvalue : Nat.ofDigitChars 10 (digits.take 6) 0 < Nat.pow 10 (digits.take 6).length :=
    Text.ofDigitChars_lt fun c hc => h c (List.mem_of_mem_take hc)
  have hscale : 0 < Nat.pow 10 (6 - digits.length) := Nat.pow_pos (by decide)
  calc fractionMicros digits <
        Nat.pow 10 (digits.take 6).length * Nat.pow 10 (6 - digits.length) :=
        Nat.mul_lt_mul_of_pos_right hvalue hscale
    _ = 10 ^ (min 6 digits.length + (6 - digits.length)) := by
        rw [hlength, Nat.pow_add]
        rfl
    _ = 10 ^ 6 := by
        rw [show min 6 digits.length + (6 - digits.length) = 6 by omega]
    _ = 1000000 := rfl

theorem WritesClock.micro_lt {time : Text} {clock : Clock} (h : WritesClock time clock) :
    clock.micro < 1000000 := by
  cases h with
  | fraction hour minute second hdigits => exact fractionMicros_lt hdigits
  | _ => exact Nat.succ_pos _

/-- Nine digits or more begin with a date, which need not exist, and a digit more. -/
theorem exists_fields {text : Text} (hlength : 9 ≤ text.length)
    (hdigits : ∀ c ∈ text, Text.isAsciiDigit c = true) :
    ∃ (date : Date) (separator : Char) (time : Text), date.Fits ∧
      text = Text.padded 4 date.year ++
        (Text.padded 2 date.month ++ (Text.padded 2 date.day ++ separator :: time)) := by
  have hbehind : ∀ n, ∀ c ∈ text.drop n, Text.isAsciiDigit c = true :=
    fun n c hc => hdigits c (List.mem_of_mem_drop hc)
  have hlong : ∀ n, n ≤ 8 → 2 ≤ (text.drop (n - 2)).length ∧ 0 < (text.drop n).length := by
    intro n hn
    rw [List.length_drop, List.length_drop]
    omega
  obtain ⟨year, hyear, hfirst⟩ :=
    Text.exists_eq_padded_append (show 0 < 4 by decide) (by omega) hdigits
  obtain ⟨month, hmonth, hsecond⟩ :=
    Text.exists_eq_padded_append Nat.two_pos (hlong 6 (by decide)).1 (hbehind 4)
  obtain ⟨day, hday, hthird⟩ :=
    Text.exists_eq_padded_append Nat.two_pos (hlong 8 (by decide)).1 (hbehind 6)
  obtain ⟨separator, time, htime⟩ :=
    List.exists_cons_of_ne_nil (List.ne_nil_of_length_pos (hlong 8 (by decide)).2)
  rw [List.drop_drop] at hsecond hthird
  rw [hthird, htime] at hsecond
  rw [hsecond] at hfirst
  exact ⟨⟨year, month, day⟩, separator, time, ⟨hyear, hmonth, hday⟩, hfirst⟩

/-- A moment that digits write is read. -/
theorem WritesMoment.ofText_eq {text : Text} {moment : Moment} (h : WritesMoment text moment) :
    Stamp.ofText text = .ok ⟨moment, none⟩ := by
  obtain ⟨date, separator, hclock, hvalid⟩ := h
  have hfits := Moment.isValid_iff.mp hvalid
  have hnumber : ∀ {n : Nat}, n < 60 → (Text.ofNat n).length ≤ 2 :=
    fun hn => Text.length_ofNat_le Nat.two_pos (show _ < 100 by omega)
  obtain ⟨parts, hparts, hwhole, hread⟩ := hclock.clockParts?_eq
    (hnumber (show _ < 60 from Nat.lt_trans hfits.2.1 (by decide))) (hnumber hfits.2.2.1)
    (hnumber hfits.2.2.2.1)
  refine ofText_eq_ok_iff.mpr ⟨date, _, none, ?_,
    (rangeFault?_eq_none_iff hclock.micro_lt).mpr hvalid, rfl⟩
  have hdate : date.Fits := Date.fits_of_isValid hfits.1
  rw [parts?_digits hdate,
    (time?_eq_some_iff hclock.isAsciiDigit).mpr ⟨parts, hparts, hwhole, rfl⟩, hread]
  rfl

/-- Nine digits or more that are read write a moment. -/
theorem WritesMoment.of_ofText {text : Text} (hlength : 9 ≤ text.length)
    (hdigits : ∀ c ∈ text, Text.isAsciiDigit c = true) {stamp : Stamp}
    (h : Stamp.ofText text = .ok stamp) : ∃ moment, WritesMoment text moment := by
  obtain ⟨date, separator, time, hfits, rfl⟩ := exists_fields hlength hdigits
  obtain ⟨_, clock, offset, hparts, hfault, -⟩ := ofText_eq_ok_iff.mp h
  have htime : ∀ c ∈ time, Text.isAsciiDigit c = true := fun c hc => hdigits c (by simp [hc])
  rw [parts?_digits hfits] at hparts
  obtain ⟨read, hread, heq⟩ := Option.map_eq_some_iff.mp hparts
  obtain ⟨rfl, rfl⟩ := Prod.mk.inj heq
  obtain ⟨parts, hclock, hwhole, heq⟩ := (time?_eq_some_iff htime).mp hread
  obtain ⟨rfl, rfl⟩ := Prod.mk.inj heq
  have hwrites := WritesClock.of_clockParts? htime hclock hwhole
  exact ⟨_, .intro date separator hwrites
    ((rangeFault?_eq_none_iff hwrites.micro_lt).mp hfault)⟩

end Stamp

namespace Instant

/-- Digits that write a moment are the instant at which a clock in universal time shows it. -/
theorem ofText?_of_writesMoment {text : Text}
    (hdigits : ∀ c ∈ text, Text.isAsciiDigit c = true) {moment : Moment}
    (h : Stamp.WritesMoment text moment) :
    ∃ instant, ofText? text = .ok (some instant) ∧ instant.micros = moment.micros := by
  have hzulu : 'Z' ∉ text := by
    intro hmem
    cases hdigits 'Z' hmem
  have hvalid : moment.isValid = true := by
    cases h
    assumption
  obtain ⟨instant, hmicros⟩ : ∃ instant : Instant, instant.micros = moment.micros :=
    ⟨⟨_, Moment.micros_lt_of_isValid hvalid⟩, rfl⟩
  have hinstant : moment.toInstant? 0 = some instant :=
    Moment.toInstant?_eq_some (by rw [hmicros, Int.sub_zero])
  have hstamp := h.ofText_eq
  rw [← spellOutZulu_of_not_mem hzulu] at hstamp
  exact ⟨instant, ofText?_of_stamp hstamp hinstant, hmicros⟩

/-- Nine digits or more are no stamp unless they write a moment. -/
theorem ofText?_eq_ok_none_iff {text : Text} (hlength : 9 ≤ text.length)
    (hdigits : ∀ c ∈ text, Text.isAsciiDigit c = true) :
    ofText? text = .ok none ↔ ¬ ∃ moment, Stamp.WritesMoment text moment := by
  have hzulu : 'Z' ∉ text := by
    intro hmem
    cases hdigits 'Z' hmem
  constructor
  · rintro hnone ⟨moment, hmoment⟩
    obtain ⟨instant, hinstant, -⟩ := ofText?_of_writesMoment hdigits hmoment
    rw [hnone] at hinstant
    cases hinstant
  · intro hwrites
    rw [ofText?, spellOutZulu_of_not_mem hzulu]
    split
    · rfl
    · rename_i stamp hstamp
      exact absurd (Stamp.WritesMoment.of_ofText hlength hdigits hstamp) hwrites

end Instant

end LogSieve.Calendar
