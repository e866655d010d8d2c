import LogSieve.Proofs.Calendar.Stamp
import LogSieve.Record.OfLine

/-!
# Stamps as they are spelled

A stamp in the extended format has a date, a letter or a space, a time with colons,
perhaps a fraction of a second and perhaps an offset, and the offset has spellings of its
own.  Whatever is chosen, the stamp is read as what was meant by it
(`Spelling.ofText?_text`).  The long format in which moments are printed is one of these
spellings (`Spelling.ofMoment`).

The reader takes the text apart at other places than it was put together: the letter for
an offset of zero is replaced before anything is read, and the offset is cut off before
the time is looked at.
-/

namespace LogSieve.Calendar

theorem spellOutZulu_append (front back : Text) :
    spellOutZulu (front ++ back) = spellOutZulu front ++ spellOutZulu back :=
  List.flatMap_append

theorem spellOutZulu_of_not_mem {text : Text} (h : 'Z' ∉ text) : spellOutZulu text = text := by
  have hkeep : ∀ c ∈ text, (if c = 'Z' then "+00:00".toList else [c]) = [c] := by
    intro c hc
    refine if_neg ?_
    rintro rfl
    exact h hc
  rw [spellOutZulu, List.flatMap_def, List.map_congr_left hkeep, ← List.flatMap_def,
    List.flatMap_singleton']

theorem Instant.ofText?_of_stamp {text : Text} {stamp : Stamp} {instant : Instant}
    (hstamp : Stamp.ofText (spellOutZulu text) = .ok stamp)
    (hinstant : stamp.toInstant? 0 = some instant) :
    Instant.ofText? text = .ok (some instant) := by
  rw [Instant.ofText?, hstamp]
  simp only [hinstant]

namespace Stamp

/-! ## Offsets -/

/-- How a stamp tells the offset of its clock. -/
inductive Zone where
  | missing
  | zulu
  /-- Hours and minutes, perhaps with a colon between them, west of universal time or east of it. -/
  | signed (west : Bool) (hour : Fin 24) (minute : Fin 60) (colon : Bool)

namespace Zone

/-- The hours and minutes of an offset, without its sign. -/
def size (hour minute : Nat) (colon : Bool) : Text :=
  Text.padded 2 hour ++ ((if colon then [':'] else []) ++ Text.padded 2 minute)

/-- An offset as it is written. -/
def text : Zone → Text
  | missing => []
  | zulu => ['Z']
  | signed west hour minute colon => (if west then '-' else '+') :: size hour minute colon

/-- An offset of zero without its letter. -/
def spelledOut : Zone → Zone
  | zulu => signed false 0 0 true
  | zone => zone

/-- An offset in microseconds, if there is one. -/
def offset : Zone → Option Int
  | missing => none
  | zulu => some 0
  | signed west hour minute _ =>
    let micros : Int := (hour * 60 + minute : Nat) * 60000000
    some (if west then -micros else micros)

theorem offset_spelledOut (zone : Zone) : zone.spelledOut.offset = zone.offset := by
  cases zone <;> rfl

/-- No offset is a day or more. -/
theorem natAbs_offset_lt (zone : Zone) : (zone.offset.getD 0).natAbs < microsPerDay := by
  have hday : microsPerDay = 86400000000 := rfl
  cases zone with
  | missing | zulu => decide
  | signed west hour minute colon =>
      simp only [offset, Option.getD_some]
      split <;> omega

theorem mem_size {hour minute : Nat} {colon : Bool} {c : Char} (hc : c ∈ size hour minute colon) :
    Text.isAsciiDigit c = true ∨ c = ':' := by
  simp only [size, List.mem_append] at hc
  rcases hc with hhour | hcolon | hminute
  · exact .inl (Text.isAsciiDigit_of_mem_padded hhour)
  · split at hcolon
    · exact .inr (List.mem_singleton.mp hcolon)
    · cases hcolon
  · exact .inl (Text.isAsciiDigit_of_mem_padded hminute)

theorem spellOutZulu_text (zone : Zone) : spellOutZulu zone.text = zone.spelledOut.text := by
  cases zone with
  | missing | zulu => decide
  | signed west hour minute colon =>
      refine spellOutZulu_of_not_mem fun hmem => ?_
      rcases List.mem_cons.mp hmem with hsign | hsize
      · split at hsign <;> cases hsign
      · rcases mem_size hsize with hdigit | hcolon
        · cases hdigit
        · cases hcolon

end Zone

theorem length_ofNat_fin {bound : Nat} (hbound : bound ≤ 100) (n : Fin bound) :
    (Text.ofNat n).length ≤ 2 := by
  have hlt : (n : Nat) < 100 := Nat.lt_of_lt_of_le n.isLt hbound
  exact Text.length_ofNat_le (by decide) hlt

theorem offset?_size (hour : Fin 24) (minute : Fin 60) (colon : Bool) :
    offset? (Zone.size hour minute colon) = some ((hour * 60 + minute : Nat) * 60000000) := by
  have hhour := length_ofNat_fin (by decide) hour
  have hminute := length_ofNat_fin (by decide) minute
  have hparts : clockParts? [] none 3 (Zone.size hour minute colon) =
      some ⟨[hour, minute], 0, false⟩ := by
    cases colon with
    | true =>
        have hafter : Text.padded 2 minute ≠ [] := Text.padded_ne_nil _ _
        show clockParts? [] none 3 (Text.padded 2 hour ++ ':' :: Text.padded 2 minute) = _
        rw [clockParts?_colon rfl hhour hafter, clockParts?_end hminute]
        rfl
    | false =>
        show clockParts? [] none 3 (Text.padded 2 hour ++ Text.padded 2 minute) = _
        rw [clockParts?_packed (by decide) hhour (fun c => Text.isAsciiDigit_of_mem_padded)
          (Text.length_padded hminute).ge, clockParts?_end hminute]
        rfl
  simp only [offset?, hparts, ClockParts.clock, List.getD_cons_zero, List.getD_cons_succ,
    List.getD_nil, Bool.false_eq_true, if_false]
  refine congrArg some ?_
  split
  · omega
  · rw [Int.ofNat_eq_natCast]
    omega

/-! ## Stamps -/

/-- The digits of a fraction behind their point, if there are any. -/
def pointed : Text → Text
  | [] => []
  | digit :: more => '.' :: digit :: more

theorem pointed_of_ne_nil {digits : Text} (h : digits ≠ []) : pointed digits = '.' :: digits := by
  cases digits with
  | nil => exact absurd rfl h
  | cons digit more => rfl

/-- A stamp with the choices that its spelling has. -/
structure Spelling where
  date : Date
  hour : Fin 24
  minute : Fin 60
  second : Fin 60
  /-- The character between date and time. -/
  separator : Char
  /-- The digits of a fraction of a second; without them there is no point. -/
  fraction : Text
  zone : Zone
  isValid_date : date.isValid = true
  separator_eq : separator = 'T' ∨ separator = ' '
  isAsciiDigit_of_mem : ∀ c ∈ fraction, Text.isAsciiDigit c = true
  length_fraction_le : fraction.length ≤ 6

namespace Spelling

variable (spelling : Spelling)

/-- The moment that is meant. -/
def moment : Moment :=
  ⟨spelling.date, spelling.hour, spelling.minute, spelling.second,
    fractionMicros spelling.fraction⟩

/-- The stamp that is meant. -/
def stamp : Stamp := ⟨spelling.moment, spelling.zone.offset⟩

/-- The time of day as it is spelled. -/
def clock : Text :=
  Text.padded 2 spelling.hour ++ ':' :: (Text.padded 2 spelling.minute ++ ':' ::
    (Text.padded 2 spelling.second ++ pointed spelling.fraction))

/-- The stamp as it is spelled. -/
def text : Text :=
  spelling.date.iso ++ spelling.separator :: (spelling.clock ++ spelling.zone.text)

theorem mem_clock {c : Char} (hc : c ∈ spelling.clock) :
    Text.isAsciiDigit c = true ∨ c = ':' ∨ c = '.' := by
  have hfraction : c ∈ pointed spelling.fraction →
      Text.isAsciiDigit c = true ∨ c = ':' ∨ c = '.' := by
    intro hmem
    by_cases hnone : spelling.fraction = []
    · rw [hnone] at hmem
      cases hmem
    · rw [pointed_of_ne_nil hnone] at hmem
      rcases List.mem_cons.mp hmem with rfl | hdigit
      · exact .inr (.inr rfl)
      · exact .inl (spelling.isAsciiDigit_of_mem c hdigit)
  simp only [clock, List.mem_append, List.mem_cons] at hc
  rcases hc with hhour | hcolon | hminute | hcolon | hsecond | hmem
  · exact .inl (Text.isAsciiDigit_of_mem_padded hhour)
  · exact .inr (.inl hcolon)
  · exact .inl (Text.isAsciiDigit_of_mem_padded hminute)
  · exact .inr (.inl hcolon)
  · exact .inl (Text.isAsciiDigit_of_mem_padded hsecond)
  · exact hfraction hmem

theorem opensOffset_clock {c : Char} (hc : c ∈ spelling.clock) : opensOffset c = false := by
  rcases spelling.mem_clock hc with hdigit | rfl | rfl
  · have hother : c ∉ ['+', '-', 'Z'] := Text.isAsciiDigit_not_mem hdigit (by decide)
    simpa [opensOffset, not_or, and_assoc] using hother
  · rfl
  · rfl

/-- Before the offset there is no letter for an offset of zero. -/
theorem zulu_not_mem :
    'Z' ∉ spelling.date.iso ++ spelling.separator :: spelling.clock := by
  have hdigit : ∀ width n, 'Z' ∉ Text.padded width n := by
    intro width n hmem
    cases Text.isAsciiDigit_of_mem_padded hmem
  intro hc
  simp only [Date.iso, List.mem_append, List.mem_cons, hdigit, or_false, false_or] at hc
  rcases hc with (hdash | hdash) | hseparator | hclock
  · cases hdash
  · cases hdash
  · rcases spelling.separator_eq with hletter | hspace
    · rw [hletter] at hseparator
      cases hseparator
    · rw [hspace] at hseparator
      cases hseparator
  · have hopens := spelling.opensOffset_clock hclock
    cases hopens

theorem spellOutZulu_text :
    spellOutZulu spelling.text =
      spelling.date.iso ++ spelling.separator ::
        (spelling.clock ++ spelling.zone.spelledOut.text) := by
  have hparts : spelling.text =
      (spelling.date.iso ++ spelling.separator :: spelling.clock) ++ spelling.zone.text := by
    rw [text, List.append_assoc, List.cons_append]
  rw [hparts, spellOutZulu_append, spellOutZulu_of_not_mem spelling.zulu_not_mem,
    Zone.spellOutZulu_text, List.append_assoc, List.cons_append]

theorem clockParts?_clock :
    clockParts? [] none 3 spelling.clock =
      some ⟨[spelling.hour, spelling.minute, spelling.second],
        fractionMicros spelling.fraction, false⟩ := by
  have hhour := length_ofNat_fin (by decide) spelling.hour
  have hminute := length_ofNat_fin (by decide) spelling.minute
  have hsecond := length_ofNat_fin (by decide) spelling.second
  have hseconds : Text.padded 2 spelling.second ≠ [] := Text.padded_ne_nil _ _
  rw [clock, clockParts?_colon rfl hhour (by simp),
    clockParts?_colon rfl hminute (by simp [hseconds])]
  by_cases hnone : spelling.fraction = []
  · rw [hnone, pointed, List.append_nil, clockParts?_end hsecond]
    rfl
  · rw [pointed_of_ne_nil hnone, clockParts?_point hsecond hnone,
      fraction?_digits hnone spelling.isAsciiDigit_of_mem]
    rfl

/-- The time and the offset, the latter without the letter. -/
theorem time?_clock :
    time? (spelling.clock ++ spelling.zone.spelledOut.text) =
      some (⟨spelling.hour, spelling.minute, spelling.second, fractionMicros spelling.fraction⟩,
        spelling.zone.offset) := by
  have hopens : ∀ c ∈ spelling.clock, opensOffset c = false := fun _ => spelling.opensOffset_clock
  rw [← Zone.offset_spelledOut]
  cases hzone : spelling.zone.spelledOut with
  | missing =>
      rw [Zone.text, List.append_nil, time?_of_clock hopens, spelling.clockParts?_clock]
      rfl
  | zulu => cases hkind : spelling.zone <;> rw [hkind] at hzone <;> cases hzone
  | signed west hour minute colon =>
      rw [Zone.text, time?_append hopens spelling.clockParts?_clock (by cases west <;> simp),
        offset?_size]
      cases west <;> rfl

theorem rangeFault?_eq_none :
    rangeFault? spelling.date
      ⟨spelling.hour, spelling.minute, spelling.second, fractionMicros spelling.fraction⟩
      spelling.zone.offset = none := by
  have hdate := spelling.isValid_date
  have hoffset := spelling.zone.natAbs_offset_lt
  simp only [Date.isValid, Bool.and_eq_true, decide_eq_true_eq] at hdate
  simp only [rangeFault?]
  rw [if_neg (by omega), if_neg (by omega), if_neg (by omega), if_neg (by omega),
    if_neg (by omega), if_neg (by omega), if_neg (by omega)]

/-- A stamp is read as it was meant. -/
theorem ofText_spellOutZulu : Stamp.ofText (spellOutZulu spelling.text) = .ok spelling.stamp := by
  have hfits := Date.fits_of_isValid spelling.isValid_date
  rw [spellOutZulu_text, Stamp.ofText, parts?_append hfits _ spelling.time?_clock]
  simp only [spelling.rangeFault?_eq_none]
  rfl

/-- A stamp that is spelled has its instant, unless that is out of the calendar. -/
theorem ofText?_text {instant : Instant}
    (h : (instant.micros : Int) = spelling.moment.micros - spelling.zone.offset.getD 0) :
    Instant.ofText? spelling.text = .ok (some instant) :=
  Instant.ofText?_of_stamp spelling.ofText_spellOutZulu (Moment.toInstant?_eq_some h)

/-! ## The long format -/

theorem fractionMicros_padded {micro : Nat} (h : micro < 1000000) :
    fractionMicros (Text.padded 6 micro) = micro := by
  have hlength := Text.length_padded (Text.length_ofNat_le (show 0 < 6 by decide) h)
  have hvalue := Text.decimal?_eq_some (Text.padded_ne_nil 6 micro)
    fun _ hc => Text.isAsciiDigit_of_mem_padded hc
  rw [Text.decimal?_padded, Option.some.injEq] at hvalue
  rw [fractionMicros, List.take_of_length_le hlength.le, hlength, ← hvalue]
  exact Nat.mul_one micro

/-- A moment in the long format, with an offset behind it. -/
def ofMoment (moment : Moment) (h : moment.isValid = true) (zone : Zone) : Spelling where
  date := moment.date
  hour := ⟨moment.hour, (Moment.isValid_iff.mp h).2.1⟩
  minute := ⟨moment.minute, (Moment.isValid_iff.mp h).2.2.1⟩
  second := ⟨moment.second, (Moment.isValid_iff.mp h).2.2.2.1⟩
  separator := 'T'
  fraction := if moment.micro = 0 then [] else Text.padded 6 moment.micro
  zone := zone
  isValid_date := (Moment.isValid_iff.mp h).1
  separator_eq := .inl rfl
  isAsciiDigit_of_mem := by
    intro c hc
    split at hc
    · cases hc
    · exact Text.isAsciiDigit_of_mem_padded hc
  length_fraction_le := by
    have hmicro := (Moment.isValid_iff.mp h).2.2.2.2
    split
    · exact Nat.zero_le _
    · exact (Text.length_padded (Text.length_ofNat_le (by decide) hmicro)).le

variable {moment : Moment} (h : moment.isValid = true) (zone : Zone)

theorem text_ofMoment : (ofMoment moment h zone).text = moment.iso ++ zone.text := by
  have hfraction : pointed (if moment.micro = 0 then [] else Text.padded 6 moment.micro) =
      if moment.micro = 0 then [] else '.' :: Text.padded 6 moment.micro := by
    split
    · rfl
    · exact pointed_of_ne_nil (Text.padded_ne_nil _ _)
  simp only [text, clock, ofMoment, hfraction]
  simp only [Moment.iso, Date.iso, Text.padded, List.append_assoc, List.cons_append]

theorem moment_ofMoment : (ofMoment moment h zone).moment = moment := by
  have hmicro := (Moment.isValid_iff.mp h).2.2.2.2
  have hfraction :
      fractionMicros (if moment.micro = 0 then [] else Text.padded 6 moment.micro) =
        moment.micro := by
    split
    · rename_i hwhole
      rw [hwhole]
      rfl
    · exact fractionMicros_padded hmicro
  simp only [Spelling.moment, ofMoment, hfraction]

end Spelling

end Stamp

/-- An instant in the long format is read back. -/
theorem Instant.ofText?_iso (instant : Instant) :
    Instant.ofText? instant.iso = .ok (some instant) := by
  have hvalid := Moment.isValid_ofMicros instant.inCalendar
  have hzone : (Stamp.Zone.signed false 0 0 true).text = "+00:00".toList := by decide
  have htext := Stamp.Spelling.text_ofMoment hvalid (.signed false 0 0 true)
  rw [hzone] at htext
  rw [Instant.iso, ← htext]
  refine Stamp.Spelling.ofText?_text _ ?_
  rw [Stamp.Spelling.moment_ofMoment, Moment.micros_ofMicros]
  exact (Int.sub_zero _).symm

end LogSieve.Calendar
