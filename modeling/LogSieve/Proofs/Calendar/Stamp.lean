import LogSieve.Calendar.Stamp
import LogSieve.Proofs.Calendar.Instant
import LogSieve.Proofs.Text.Decimal
import Mathlib.Data.List.TakeWhile

/-!
# The pieces of stamps

The readers of dates, of numbers with or without a colon behind them and of fractions
find what was written, and the reader of a stamp puts together what they find
(`parts?_append`).  Whatever is read as a stamp begins with a digit
(`exists_of_ofText`).
-/

namespace LogSieve.Calendar

/-- The microseconds that the digits behind a point mean; those beyond the sixth are dropped. -/
def fractionMicros (digits : Text) : Nat :=
  Nat.ofDigitChars 10 (digits.take 6) 0 * Nat.pow 10 (6 - digits.length)

/-- A date in the long format. -/
def Date.iso (date : Date) : Text :=
  Text.padded 4 date.year ++ '-' :: Text.padded 2 date.month ++ '-' :: Text.padded 2 date.day

namespace Stamp

/-! ## Digits -/

theorem digits?_padded {width n : Nat} (h : (Text.ofNat n).length ≤ width) (rest : Text) :
    digits? width (Text.padded width n ++ rest) = some (n, rest) := by
  have hlength := Text.length_padded h
  have hdigits : (Text.padded width n).all Text.isAsciiDigit = true :=
    List.all_eq_true.mpr fun _ hc => Text.isAsciiDigit_of_mem_padded hc
  rw [digits?, List.take_left' hlength, List.drop_left' hlength]
  simp only [hlength, hdigits, and_self, if_true, Text.decimal?_padded, Option.map_some]

theorem digits?_length {digits : Text} (hne : digits ≠ [])
    (h : ∀ c ∈ digits, Text.isAsciiDigit c = true) (rest : Text) :
    digits? digits.length (digits ++ rest) = some (Nat.ofDigitChars 10 digits 0, rest) := by
  have hall : digits.all Text.isAsciiDigit = true := List.all_eq_true.mpr h
  rw [digits?, List.take_left' rfl, List.drop_left' rfl]
  simp only [hall, and_self, if_true, Text.decimal?_eq_some hne h, Option.map_some]

theorem exists_of_digits? {count : Nat} {text : Text} {read : Nat × Text}
    (h : digits? (count + 1) text = some read) :
    ∃ c rest, text = c :: rest ∧ Text.isAsciiDigit c = true := by
  rw [digits?] at h
  split at h
  · rename_i hrun
    obtain ⟨hlength, hdigits⟩ := hrun
    cases text with
    | nil => cases hlength
    | cons c rest => exact ⟨c, rest, rfl, List.all_eq_true.mp hdigits c List.mem_cons_self⟩
  · cases h

end Stamp

/-! ## Dates -/

namespace Date

/-- The numbers of a date fit into their fields. -/
structure Fits (date : Date) : Prop where
  year : (Text.ofNat date.year).length ≤ 4
  month : (Text.ofNat date.month).length ≤ 2
  day : (Text.ofNat date.day).length ≤ 2

theorem monthLength_le (date : Date) : date.monthLength ≤ 31 := by
  have hlengths : ∀ length ∈ monthLengths date.year, length ≤ 31 := by
    unfold monthLengths
    split <;> decide
  rw [monthLength, List.getD_eq_getElem?_getD]
  cases hlength : (monthLengths date.year)[date.month - 1]? with
  | none => exact Nat.zero_le _
  | some length => exact hlengths length (List.mem_of_getElem? hlength)

theorem fits_of_isValid {date : Date} (h : date.isValid = true) : date.Fits := by
  have hlength := date.monthLength_le
  have hlast : lastYear = 9999 := rfl
  simp only [isValid, Bool.and_eq_true, decide_eq_true_eq] at h
  have hyear : date.year < 10000 := by omega
  have hmonth : date.month < 100 := by omega
  have hday : date.day < 100 := by omega
  exact ⟨Text.length_ofNat_le (by decide) hyear, Text.length_ofNat_le (by decide) hmonth,
    Text.length_ofNat_le (by decide) hday⟩

theorem length_iso {date : Date} (h : date.Fits) : date.iso.length = 10 := by
  simp [iso, Text.length_padded h.year, Text.length_padded h.month,
    Text.length_padded h.day]

/-- A date is followed by another character and a time. -/
theorem dateLength_iso {date : Date} (h : date.Fits) (separator : Char) (time : Text) :
    Stamp.dateLength (date.iso ++ separator :: time) = 10 := by
  have hlength : (date.iso ++ separator :: time).length ≠ 7 := by
    rw [List.length_append, length_iso h]
    omega
  have hyear := Text.length_padded h.year
  obtain ⟨c, more, hmonth, hc⟩ := Text.exists_padded_eq_cons 2 date.month
  have hdash : (date.iso ++ separator :: time)[4]? = some '-' := by
    simp [iso, hyear]
  have hdigit : (date.iso ++ separator :: time)[5]? = some c := by
    simp [iso, List.getElem?_append_right, hyear, hmonth]
  have hweek : c ≠ 'W' := by
    rintro rfl
    cases hc
  rw [Stamp.dateLength, if_neg hlength, if_pos hdash, hdigit, if_neg (by simpa using hweek)]

theorem date?_iso {date : Date} (h : date.Fits) : Stamp.date? date.iso = some date := by
  obtain ⟨c, more, hmonth, hc⟩ := Text.exists_padded_eq_cons 2 date.month
  have hweek : c ≠ 'W' := by
    rintro rfl
    cases hc
  have hyear := Stamp.digits?_padded h.year
  have hmonths := Stamp.digits?_padded h.month
  have hday := Stamp.digits?_padded h.day []
  simp only [hmonth, List.cons_append] at hmonths
  rw [List.append_nil] at hday
  simp [Stamp.date?, iso, hyear, hmonth, hmonths, hday, hweek]

end Date

namespace Stamp

/-! ## Times -/

variable {numbers : List Nat} {colons : Option Bool} {remaining n : Nat}

/-- A number with a colon and something behind it. -/
theorem clockParts?_colon (hcolons : colons.getD true = true) (h : (Text.ofNat n).length ≤ 2)
    {after : Text} (hafter : after ≠ []) :
    clockParts? numbers colons (remaining + 1) (Text.padded 2 n ++ ':' :: after) =
      clockParts? (numbers ++ [n]) (some true) remaining after := by
  obtain ⟨c, more, rfl⟩ := List.exists_cons_of_ne_nil hafter
  have hread := digits?_padded h (':' :: c :: more)
  simp [clockParts?, hread, hcolons]

/-- A number with a point and a fraction behind it. -/
theorem clockParts?_point (h : (Text.ofNat n).length ≤ 2) {after : Text} (hafter : after ≠ []) :
    clockParts? numbers colons (remaining + 1) (Text.padded 2 n ++ '.' :: after) =
      fraction? (numbers ++ [n]) after := by
  obtain ⟨c, more, rfl⟩ := List.exists_cons_of_ne_nil hafter
  have hread := digits?_padded h ('.' :: c :: more)
  simp [clockParts?, hread]

theorem clockParts?_end (h : (Text.ofNat n).length ≤ 2) :
    clockParts? numbers colons (remaining + 1) (Text.padded 2 n) =
      some ⟨numbers ++ [n], 0, false⟩ := by
  have hread := digits?_padded h []
  rw [List.append_nil] at hread
  simp [clockParts?, hread]

/-- A number with another one directly behind it, both without colons. -/
theorem clockParts?_packed (hcolons : colons ≠ some true) (h : (Text.ofNat n).length ≤ 2)
    {after : Text} (hdigits : ∀ c ∈ after, Text.isAsciiDigit c = true)
    (hafter : 2 ≤ after.length) :
    clockParts? numbers colons (remaining + 1) (Text.padded 2 n ++ after) =
      clockParts? (numbers ++ [n]) (some false) remaining after := by
  obtain ⟨c, d, more, rfl⟩ : ∃ c d more, after = c :: d :: more := by
    match after, hafter with
    | c :: d :: more, _ => exact ⟨c, d, more, rfl⟩
  have hread := digits?_padded h (c :: d :: more)
  have hc := hdigits c List.mem_cons_self
  have hcolon : c ≠ ':' := Text.isAsciiDigit_ne hc (by decide)
  have hpoint : c ≠ '.' := Text.isAsciiDigit_ne hc (by decide)
  have hcomma : c ≠ ',' := Text.isAsciiDigit_ne hc (by decide)
  have hnone : colons.getD (c == ':') = false := by
    rcases colons with - | (- | -)
    · simpa using hcolon
    · rfl
    · exact absurd rfl hcolons
  simp [clockParts?, hread, hnone, hpoint, hcomma]

/-- A fraction is what its digits mean. -/
theorem fraction?_digits {digits : Text} (hne : digits ≠ [])
    (h : ∀ c ∈ digits, Text.isAsciiDigit c = true) :
    fraction? numbers digits = some ⟨numbers, fractionMicros digits, false⟩ := by
  have htake : digits.take 6 ≠ [] := by simpa using hne
  have hlength : (digits.take 6).length = min 6 digits.length := List.length_take
  have hread := digits?_length htake (fun c hc => h c (List.mem_of_mem_take hc)) (digits.drop 6)
  rw [List.take_append_drop, hlength] at hread
  have hrest : (digits.drop 6).dropWhile Text.isAsciiDigit = [] :=
    List.dropWhile_eq_nil_iff.mpr fun c hc => h c (List.mem_of_mem_drop hc)
  have hscale : 6 - min 6 digits.length = 6 - digits.length := by omega
  simp only [fraction?, hread, Option.map_some, hrest, hscale, fractionMicros, List.head?_nil,
    Option.any_none]

/-- The clock of a time that nothing follows. -/
theorem time?_of_clock {clock : Text} (hclock : ∀ c ∈ clock, opensOffset c = false) :
    time? clock =
      match clockParts? [] none 3 clock with
      | none => none
      | some parts => if parts.leftOver then none else some (parts.clock, none) := by
  have hpass : ∀ c ∈ clock, (!opensOffset c) = true := by
    intro c hc
    rw [hclock c hc]
    rfl
  have htake : clock.takeWhile (fun c => !opensOffset c) = clock :=
    List.takeWhile_eq_self_iff.mpr hpass
  have hdrop : clock.dropWhile (fun c => !opensOffset c) = [] :=
    List.dropWhile_eq_nil_iff.mpr hpass
  rw [time?, htake, hdrop]
  cases clockParts? [] none 3 clock <;> rfl

/-- The clock of a time that an offset follows. -/
theorem time?_append {clock : Text} (hclock : ∀ c ∈ clock, opensOffset c = false)
    {parts : ClockParts} (hparts : clockParts? [] none 3 clock = some parts) {sign : Char}
    (hsign : sign = '+' ∨ sign = '-') (rest : Text) :
    time? (clock ++ sign :: rest) =
      (offset? rest).map fun micros =>
        (parts.clock, some (if sign = '-' then -micros else micros)) := by
  have hopens : opensOffset sign = true := by
    rcases hsign with rfl | rfl <;> rfl
  have hpass : ∀ c ∈ clock, (!opensOffset c) = true := by
    intro c hc
    rw [hclock c hc]
    rfl
  have htake : (clock ++ sign :: rest).takeWhile (fun c => !opensOffset c) = clock := by
    rw [List.takeWhile_append_of_pos hpass, List.takeWhile_cons_of_neg (by simp [hopens]),
      List.append_nil]
  have hdrop : (clock ++ sign :: rest).dropWhile (fun c => !opensOffset c) = sign :: rest := by
    rw [List.dropWhile_append_of_pos hpass, List.dropWhile_cons_of_neg (by simp [hopens])]
  rw [time?, htake, hdrop, hparts]
  rcases hsign with rfl | rfl <;> rfl

/-! ## Stamps -/

/-- The moment with a date and a clock. -/
def momentOf (date : Date) (clock : Clock) : Moment :=
  ⟨date, clock.hour, clock.minute, clock.second, clock.micro⟩

/-- A date that a time follows. -/
theorem parts?_append {date : Date} (h : date.Fits) (separator : Char) {time : Text}
    {read : Clock × Option Int} (htime : time? time = some read) :
    parts? (date.iso ++ separator :: time) = some (date, read) := by
  have hlength := Date.length_iso h
  have hlong : ¬ (date.iso ++ separator :: time).length < 7 := by
    rw [List.length_append, hlength]
    omega
  rw [parts?, if_neg hlong]
  simp only [Date.dateLength_iso h, List.take_left' hlength, List.drop_left' hlength,
    Date.date?_iso h, htime, Option.map_some]

/-- What there is to a text that is a stamp. -/
theorem ofText_eq_ok_iff {text : Text} {stamp : Stamp} :
    Stamp.ofText text = .ok stamp ↔
      ∃ date clock offset, parts? text = some (date, clock, offset) ∧
        rangeFault? date clock offset = none ∧ ⟨momentOf date clock, offset⟩ = stamp := by
  unfold Stamp.ofText
  cases parts? text with
  | none => simp
  | some parts =>
      obtain ⟨date, clock, offset⟩ := parts
      cases hfault : rangeFault? date clock offset with
      | none => simp [hfault, momentOf]
      | some fault => simp [hfault]

/-- A stamp begins with a digit. -/
theorem exists_of_ofText {text : Text} {stamp : Stamp} (h : Stamp.ofText text = .ok stamp) :
    ∃ c rest, text = c :: rest ∧ Text.isAsciiDigit c = true := by
  obtain ⟨date, clock, offset, hparts, -⟩ := ofText_eq_ok_iff.mp h
  obtain ⟨read, hdate⟩ : ∃ read, date? (text.take (dateLength text)) = some read := by
    unfold parts? at hparts
    split at hparts
    · cases hparts
    · cases hdate : date? (text.take (dateLength text)) with
      | none =>
          simp only [hdate] at hparts
          cases hparts
      | some read => exact ⟨read, rfl⟩
  obtain ⟨year, hyear, -⟩ := Option.bind_eq_some_iff.mp hdate
  obtain ⟨c, rest, hfront, hc⟩ := exists_of_digits? hyear
  have hhead : text.head? = some c := by
    rw [← List.take_append_drop (dateLength text) text, hfront]
    rfl
  obtain ⟨more, htext⟩ := List.head?_eq_some_iff.mp hhead
  exact ⟨c, more, htext, hc⟩

end Stamp

end LogSieve.Calendar
