import LogSieve.Calendar.Instant
import LogSieve.Proofs.Calendar.Date

/-!
# Instants and moments

A clock in universal time shows a moment that exists at every instant of the
calendar (`isValid_ofMicros`), and such a moment is one of the calendar
(`micros_lt_of_isValid`).  Away from the first and the last year every clock shows it
at an instant (`IsInner.exists_instant`).
-/

namespace LogSieve.Calendar.Moment

theorem microsOfDay_ofMicros (micros : Nat) :
    (ofMicros micros).microsOfDay = micros % microsPerDay := by
  have hday : microsPerDay = 86400000000 := rfl
  simp only [microsOfDay, ofMicros, hday]
  omega

theorem micros_ofMicros (micros : Nat) : (ofMicros micros).micros = micros := by
  have hdate : (ofMicros micros).date.dayNumber = micros / microsPerDay :=
    Date.dayNumber_ofDayNumber _
  rw [Moment.micros, hdate, microsOfDay_ofMicros, Nat.div_add_mod']

theorem isValid_iff {moment : Moment} :
    moment.isValid = true ↔ moment.date.isValid = true ∧ moment.hour < 24 ∧ moment.minute < 60 ∧
      moment.second < 60 ∧ moment.micro < 1000000 := by
  simp [isValid, and_assoc]

theorem isValid_ofMicros {micros : Nat} (h : micros < microsInCalendar) :
    (ofMicros micros).isValid = true := by
  have hday : microsPerDay = 86400000000 := rfl
  have hdate : (ofMicros micros).date.isValid = true :=
    Date.isValid_ofDayNumber (Nat.div_lt_of_lt_mul (Nat.mul_comm .. ▸ h))
  refine isValid_iff.mpr ⟨hdate, ?_⟩
  simp only [ofMicros, hday]
  omega

theorem microsOfDay_lt_of_isValid {moment : Moment} (h : moment.isValid = true) :
    moment.microsOfDay < microsPerDay := by
  have hday : microsPerDay = 86400000000 := rfl
  obtain ⟨-, hhour, hminute, hsecond, hmicro⟩ := isValid_iff.mp h
  rw [microsOfDay]
  omega

/-- A moment that exists is in the calendar. -/
theorem micros_lt_of_isValid {moment : Moment} (h : moment.isValid = true) :
    moment.micros < microsInCalendar := by
  have hday := microsOfDay_lt_of_isValid h
  have hdate := Date.dayNumber_lt_dayCount (isValid_iff.mp h).1
  calc moment.micros < (moment.date.dayNumber + 1) * microsPerDay := by
        rw [micros, Nat.add_one_mul]
        omega
    _ ≤ microsInCalendar := Nat.mul_le_mul_right _ hdate

/-- The instant at which a clock shows a moment, told by its distance. -/
theorem toInstant?_eq_some {moment : Moment} {offset : Int} {instant : Instant}
    (h : (instant.micros : Int) = moment.micros - offset) :
    moment.toInstant? offset = some instant := by
  have hrange := instant.inCalendar
  simp only [toInstant?, ← h, Int.toNat_natCast]
  rw [dif_pos (by omega)]

/-- A moment that exists, away from the first and the last year of the calendar. -/
structure IsInner (moment : Moment) : Prop where
  isValid : moment.isValid = true
  first : 2 ≤ moment.date.year
  last : moment.date.year < lastYear

/-- No clock shows such a moment out of the calendar. -/
theorem IsInner.exists_instant {moment : Moment} (h : moment.IsInner) {offset : Int}
    (hoffset : offset.natAbs < microsPerDay) :
    ∃ instant : Instant, (instant.micros : Int) = moment.micros - offset := by
  have hclock := microsOfDay_lt_of_isValid h.isValid
  obtain ⟨hfirst, hlast⟩ :=
    Date.dayNumber_inside_of_isValid (isValid_iff.mp h.isValid).1 h.first h.last
  have hday : microsPerDay = 86400000000 := rfl
  have hcalendar : microsInCalendar = dayCount * microsPerDay := rfl
  have hmicros : moment.micros = moment.date.dayNumber * microsPerDay + moment.microsOfDay := rfl
  rw [hday] at hclock hoffset hcalendar hmicros
  refine ⟨⟨((moment.micros : Int) - offset).toNat, ?_⟩, ?_⟩
  · omega
  · simp only
    omega

/-- A clock shows a moment at no instant if it is out of the calendar in universal time. -/
theorem toInstant?_eq_none_iff {moment : Moment} {offset : Int} :
    moment.toInstant? offset = none ↔
      ¬ (0 ≤ (moment.micros : Int) - offset ∧
        (moment.micros : Int) - offset < microsInCalendar) := by
  simp only [toInstant?]
  split
  · rename_i hinside
    exact iff_of_false (Option.some_ne_none _) (not_not_intro hinside)
  · rename_i hinside
    exact iff_of_true rfl hinside

end LogSieve.Calendar.Moment
