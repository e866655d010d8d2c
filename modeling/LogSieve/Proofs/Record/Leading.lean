import LogSieve.Proofs.Calendar.Spelling
import LogSieve.Proofs.Text.Strip
import Mathlib.Data.List.Forall2

/-!
# Stamps at the start of a line

A line that starts with a stamp, in brackets or not, has the instant of the stamp, whatever
stands behind it, unless its fields name an instant (`timestamp_of_leading`).

The start of a line is matched slot by slot and by greedy runs, so it has to be shown that
each part of the stamp ends where the next one begins.  The brackets and the space are what
stops the last part (`Stops`).
-/

namespace LogSieve.Record

variable {stack : Stack}

open Calendar (Instant Moment Stamp)

/-! ## Layouts -/

/-- Each slot of a layout is filled by the character in its place. -/
def Fills (slots : List Slot) (filled : Text) : Prop :=
  List.Forall₂ (fun slot c => slot.admits c = true) slots filled

theorem Fills.append {slots others : List Slot} {filled more : Text} (h : Fills slots filled)
    (hmore : Fills others more) : Fills (slots ++ others) (filled ++ more) :=
  List.rel_append h hmore

theorem Fills.cons {slot : Slot} {c : Char} {slots : List Slot} {filled : Text}
    (hc : slot.admits c = true) (h : Fills slots filled) : Fills (slot :: slots) (c :: filled) :=
  List.Forall₂.cons hc h

/-- A mark that must be there. -/
theorem Fills.mark {slots : List Slot} {filled : Text} (mark : Char) (h : Fills slots filled) :
    Fills (.oneOf [mark] :: slots) (mark :: filled) :=
  .cons (by simp [Slot.admits]) h

theorem admits_digit {c : Char} (h : Text.isAsciiDigit c = true) : Slot.digit.admits c = true := by
  rw [Slot.admits, Text.isDigit, Text.digitValue?_of_isAsciiDigit h]
  rfl

theorem fills_digits {digits : Text} (h : ∀ c ∈ digits, Text.isAsciiDigit c = true) :
    Fills (List.replicate digits.length .digit) digits := by
  induction digits with
  | nil => exact List.Forall₂.nil
  | cons c rest ih =>
      exact .cons (admits_digit (h c List.mem_cons_self))
        (ih fun d hd => h d (List.mem_cons_of_mem c hd))

/-- A number fills as many slots as its field is wide. -/
theorem fills_padded {width n : Nat} (h : (Text.ofNat n).length ≤ width) :
    Fills (List.replicate width .digit) (Text.padded width n) := by
  have hdigits := fills_digits fun c (hc : c ∈ Text.padded width n) =>
    Text.isAsciiDigit_of_mem_padded hc
  rwa [Text.length_padded h] at hdigits

/-- What fills a layout is taken off, and the rest of the layout decides. -/
theorem fill?_append {slots : List Slot} {filled : Text} (h : Fills slots filled)
    (others : List Slot) (rest : Text) :
    fill? (slots ++ others) (filled ++ rest) =
      (fill? others rest).map fun read => (filled ++ read.1, read.2) := by
  induction h with
  | nil => simp
  | cons hc _ ih =>
      rw [List.cons_append, List.cons_append, fill?, if_pos hc, ih]
      cases fill? others rest <;> rfl

theorem fill?_of_fills {slots : List Slot} {filled : Text} (h : Fills slots filled)
    (rest : Text) : fill? slots (filled ++ rest) = some (filled, rest) := by
  have hfill := fill?_append h [] rest
  rw [List.append_nil] at hfill
  simp only [hfill, fill?, Option.map_some, List.append_nil]

/-! ## The parts of a stamp -/

/-- What ends a stamp: the end of the text, a space or a bracket. -/
def Stops (after : Text) : Prop := ∀ c ∈ after.head?, c = ' ' ∨ c = ']'

/-- A point that is missing, and digits that come to an end. -/
theorem leadingFraction_pointed {digits after : Text}
    (h : ∀ c ∈ digits, Text.isAsciiDigit c = true)
    (hafter : ∀ c ∈ after.head?, Text.isDigit c = false ∧ c ≠ '.') :
    leadingFraction (Stamp.pointed digits ++ after) = (Stamp.pointed digits, after) := by
  cases digits with
  | nil =>
      rw [Stamp.pointed, List.nil_append]
      unfold leadingFraction
      split
      · rename_i rest
        exact absurd rfl (hafter '.' rfl).2
      · rfl
  | cons digit more =>
      have hrun : (digit :: (more ++ after)).takeWhile Text.isDigit = digit :: more := by
        have hall : ∀ c ∈ digit :: more, Text.isDigit c = true := fun c hc => admits_digit (h c hc)
        rw [← List.cons_append, List.takeWhile_append_of_pos hall]
        cases after with
        | nil => simp
        | cons c rest => simp [(hafter c rfl).1]
      have hrest : (digit :: (more ++ after)).dropWhile Text.isDigit = after := by
        have hall : ∀ c ∈ digit :: more, Text.isDigit c = true := fun c hc => admits_digit (h c hc)
        rw [← List.cons_append, List.dropWhile_append_of_pos hall]
        cases after with
        | nil => rfl
        | cons c rest => simp [(hafter c rfl).1]
      simp only [Stamp.pointed, List.cons_append, leadingFraction, hrun, hrest]

/-- Behind a sign, an offset with a colon is looked for, and then one without. -/
theorem leadingOffset_cons {sign : Char} (h : sign = '+' ∨ sign = '-') (rest : Text) :
    leadingOffset (sign :: rest) =
      match fill? [.oneOf ['+', '-'], .digit, .digit, .oneOf [':'], .digit, .digit]
        (sign :: rest) with
      | some (offset, _) => offset
      | none => (fill? [.oneOf ['+', '-'], .digit, .digit, .digit, .digit]
          (sign :: rest)).elim [] Prod.fst := by
  rcases h with rfl | rfl <;> rfl

theorem leadingOffset_signed {sign : Char} (h : sign = '+' ∨ sign = '-') (hour : Fin 24)
    (minute : Fin 60) (colon : Bool) (after : Text) :
    leadingOffset ((sign :: Stamp.Zone.size hour minute colon) ++ after) =
      sign :: Stamp.Zone.size hour minute colon := by
  have hhour : Fills [.digit, .digit] (Text.padded 2 hour) :=
    fills_padded (Stamp.length_ofNat_fin (by decide) hour)
  have hminute : Fills [.digit, .digit] (Text.padded 2 minute) :=
    fills_padded (Stamp.length_ofNat_fin (by decide) minute)
  have hsign : (Slot.oneOf ['+', '-']).admits sign = true := by
    rcases h with rfl | rfl <;> rfl
  rw [List.cons_append, leadingOffset_cons h, ← List.cons_append]
  cases colon with
  | true =>
      have hfilled : Fills [.oneOf ['+', '-'], .digit, .digit, .oneOf [':'], .digit, .digit]
          (sign :: Stamp.Zone.size hour minute true) :=
        .cons hsign (hhour.append (hminute.mark ':'))
      simp only [fill?_of_fills hfilled]
  | false =>
      have hfilled : Fills [.oneOf ['+', '-'], .digit, .digit, .digit, .digit]
          (sign :: Stamp.Zone.size hour minute false) :=
        .cons hsign (hhour.append hminute)
      -- a digit of the minutes stands where the colon may be
      have hpacked : fill? [.oneOf ['+', '-'], .digit, .digit, .oneOf [':'], .digit, .digit]
          ((sign :: Stamp.Zone.size hour minute false) ++ after) = none := by
        obtain ⟨c, more, hc, hdigit⟩ := Text.exists_padded_eq_cons 2 minute
        have hcolon : ¬ (Slot.oneOf [':']).admits c = true := by
          simpa [Slot.admits] using Text.isAsciiDigit_ne hdigit (show _ = false from rfl)
        have hstop : fill? [.oneOf [':'], .digit, .digit] (Text.padded 2 minute ++ after) =
            none := by
          rw [hc, List.cons_append, fill?, if_neg hcolon]
        have hread := fill?_append (Fills.cons hsign hhour) [.oneOf [':'], .digit, .digit]
          (Text.padded 2 minute ++ after)
        rw [hstop] at hread
        simpa [Stamp.Zone.size] using hread
      simp only [hpacked, fill?_of_fills hfilled, Option.elim_some]

/-- An offset comes to an end, and one that is missing does not begin. -/
theorem leadingOffset_zone (zone : Stamp.Zone) {after : Text} (h : Stops after) :
    leadingOffset (zone.text ++ after) = zone.text := by
  cases zone with
  | zulu => rfl
  | signed west hour minute colon =>
      exact leadingOffset_signed (by cases west <;> simp) hour minute colon after
  | missing =>
      rw [Stamp.Zone.text, List.nil_append]
      cases after with
      | nil => rfl
      | cons c rest => rcases h c rfl with rfl | rfl <;> rfl

/-! ## Stamps -/

/-- The offset is not taken for a part of the fraction. -/
theorem head?_zone {zone : Stamp.Zone} {after : Text} (h : Stops after) :
    ∀ c ∈ (zone.text ++ after).head?, Text.isDigit c = false ∧ c ≠ '.' := by
  intro c hc
  have hends : c ∈ ['Z', '+', '-', ' ', ']'] := by
    cases zone with
    | zulu =>
        obtain rfl : 'Z' = c := Option.some.inj hc
        decide
    | signed west hour minute colon =>
        obtain rfl : (if west then '-' else '+') = c := Option.some.inj hc
        cases west <;> decide
    | missing => rcases h c hc with rfl | rfl <;> decide
  have hother : ['Z', '+', '-', ' ', ']'].all (fun c => !Text.isDigit c && c != '.') = true := by
    decide
  simpa using List.all_eq_true.mp hother c hends

/-- The part of a stamp that has the same places in all spellings. -/
def front (spelling : Stamp.Spelling) : Text :=
  spelling.date.iso ++ spelling.separator ::
    (Text.padded 2 spelling.hour ++ ':' ::
      (Text.padded 2 spelling.minute ++ ':' :: Text.padded 2 spelling.second))

theorem text_eq_front (spelling : Stamp.Spelling) :
    spelling.text =
      front spelling ++ (Stamp.pointed spelling.fraction ++ spelling.zone.text) := by
  simp only [Stamp.Spelling.text, Stamp.Spelling.clock, front, List.append_assoc,
    List.cons_append]

theorem fills_front (spelling : Stamp.Spelling) : Fills stampLayout (front spelling) := by
  have hfits := Calendar.Date.fits_of_isValid spelling.isValid_date
  have hyear := fills_padded hfits.year
  have hmonth := fills_padded hfits.month
  have hday := fills_padded hfits.day
  have hhour := fills_padded (Stamp.length_ofNat_fin (by decide) spelling.hour)
  have hminute := fills_padded (Stamp.length_ofNat_fin (by decide) spelling.minute)
  have hsecond := fills_padded (Stamp.length_ofNat_fin (by decide) spelling.second)
  have hseparator : (Slot.oneOf ['T', ' ']).admits spelling.separator = true := by
    rcases spelling.separator_eq with hletter | hspace
    · rw [hletter]
      rfl
    · rw [hspace]
      rfl
  have hdate := (hyear.append (hmonth.mark '-')).append (hday.mark '-')
  have hclock := hhour.append ((hminute.append (hsecond.mark ':')).mark ':')
  exact hdate.append (.cons hseparator hclock)

/-- A stamp that something stops is found at the start of a text, behind a bracket or not. -/
theorem leadingStamp?_text (spelling : Stamp.Spelling) (bracketed : Bool) {after : Text}
    (h : Stops after) :
    leadingStamp? ((if bracketed then ['['] else []) ++ (spelling.text ++ after)) =
      some spelling.text := by
  have hstart : leadingStamp? ((if bracketed then ['['] else []) ++ (spelling.text ++ after)) =
      (fill? stampLayout (spelling.text ++ after)).map fun read =>
        read.1 ++ (leadingFraction read.2).1 ++ leadingOffset (leadingFraction read.2).2 := by
    obtain ⟨c, more, hyear, hdigit⟩ := Text.exists_padded_eq_cons 4 spelling.date.year
    have hbracket : c ≠ '[' := Text.isAsciiDigit_ne hdigit (by decide)
    cases bracketed with
    | true => rfl
    | false => simp [leadingStamp?, Stamp.Spelling.text, Calendar.Date.iso, hyear, hbracket]
  have hzone : ∀ c ∈ (spelling.zone.text ++ after).head?, Text.isDigit c = false ∧ c ≠ '.' :=
    head?_zone h
  have hfraction := leadingFraction_pointed spelling.isAsciiDigit_of_mem hzone
  rw [hstart, text_eq_front, List.append_assoc, List.append_assoc,
    fill?_of_fills (fills_front spelling)]
  simp only [Option.map_some, hfraction, leadingOffset_zone spelling.zone h, List.append_assoc]

/-! ## Lines -/

/-- No field that names an instant, in whatever case, has a value. -/
def AreUntimed (fields : Fields) : Prop :=
  ∀ field ∈ fields, field.1.lower ∈ timeKeys → field.2 = []

theorem firstNonempty?_of_areUntimed {fields : Fields} (h : AreUntimed fields) :
    fields.firstNonempty? timeKeys = none := by
  refine List.findSome?_eq_none_iff.mpr fun key hkey => ?_
  rw [Option.filter_eq_none_iff]
  intro value hvalue
  obtain ⟨⟨name, text⟩, hfound, rfl⟩ := Option.map_eq_some_iff.mp hvalue
  have hname : name.lower = key := by simpa using List.find?_some hfound
  have hempty : text = [] :=
    h _ (List.mem_reverse.mp (List.mem_of_find?_eq_some hfound)) (hname ▸ hkey)
  simpa using hempty

/-- A line without an instant in its fields has the instant that it starts with. -/
theorem exists_ofLine_of_leadingStamp? {raw stamp : Text} {content : Content}
    (hcontent : Content.ofLine stack raw = .ok content)
    (hfields : content.fields.firstNonempty? timeKeys = none)
    (hstamp : leadingStamp? (Text.stripStart raw) = some stamp) {instant : Instant}
    (hinstant : Instant.ofText? stamp = .ok (some instant)) (number : Option Int)
    (level : Option Text) :
    ∃ record, ofLine stack raw number level = .ok record ∧ record.timestamp = some instant := by
  have hinferred : inferredInstant? raw content.fields = .ok (some instant) := by
    rw [inferredInstant?, hfields, hstamp]
    show (instantOf? (some stamp)) = _
    rw [instantOf?, hinstant]
    rfl
  rw [ofLine, hcontent]
  simp only [bind, Except.bind, hinferred]
  exact ⟨_, rfl, rfl⟩

/-- A line that starts with a stamp. -/
def stampedLine (spelling : Stamp.Spelling) (bracketed : Bool) (after : Text) : Text :=
  (if bracketed then ['['] else []) ++
    (spelling.text ++ ((if bracketed then [']'] else []) ++ after))

theorem exists_stampedLine_eq_cons (spelling : Stamp.Spelling) (bracketed : Bool) (after : Text) :
    ∃ c rest, stampedLine spelling bracketed after = c :: rest ∧ Text.isBlank c = false := by
  obtain ⟨c, more, hyear, hdigit⟩ := Text.exists_padded_eq_cons 4 spelling.date.year
  cases bracketed with
  | true => exact ⟨'[', _, rfl, by decide⟩
  | false =>
      have hhead : (stampedLine spelling false after).head? = some c := by
        simp [stampedLine, Stamp.Spelling.text, Calendar.Date.iso, hyear]
      obtain ⟨rest, hline⟩ := List.head?_eq_some_iff.mp hhead
      exact ⟨c, rest, hline, Text.isBlank_of_isAsciiDigit hdigit⟩

theorem stripStart_stampedLine (spelling : Stamp.Spelling) (bracketed : Bool) (after : Text) :
    Text.stripStart (stampedLine spelling bracketed after) =
      stampedLine spelling bracketed after := by
  obtain ⟨c, rest, hline, hblank⟩ := exists_stampedLine_eq_cons spelling bracketed after
  rw [hline]
  exact Text.stripStart_eq_self fun d hd => Option.some.inj hd ▸ hblank

/-- A line that starts with a stamp and whose fields do not name an instant has the instant of the
stamp. -/
theorem exists_ofLine_stampedLine (spelling : Stamp.Spelling) (bracketed : Bool) {after : Text}
    (hafter : Stops after) {content : Content}
    (hcontent : Content.ofLine stack (stampedLine spelling bracketed after) = .ok content)
    (hfields : AreUntimed content.fields) {instant : Instant}
    (hinstant : (instant.micros : Int) =
      spelling.moment.micros - spelling.zone.offset.getD 0)
    (number : Option Int) (level : Option Text) :
    ∃ record, ofLine stack (stampedLine spelling bracketed after) number level = .ok record ∧
      record.timestamp = some instant := by
  have hstops : Stops ((if bracketed then [']'] else []) ++ after) := by
    cases bracketed with
    | true => exact fun c hc => .inr (Option.some.inj hc).symm
    | false => exact hafter
  have hstamp := leadingStamp?_text spelling bracketed hstops
  rw [← stampedLine, ← stripStart_stampedLine] at hstamp
  exact exists_ofLine_of_leadingStamp? hcontent (firstNonempty?_of_areUntimed hfields) hstamp
    (spelling.ofText?_text hinstant) number level

/-- The instant of a leading stamp is that of its line, whatever stands behind it, unless the fields
of the line name one. -/
theorem timestamp_of_leading (spelling : Stamp.Spelling) (bracketed : Bool) (rest : Text)
    {content : Content}
    (hcontent : Content.ofLine stack (stampedLine spelling bracketed (' ' :: rest)) = .ok content)
    (hfields : AreUntimed content.fields) {instant : Instant}
    (hinstant : (instant.micros : Int) =
      spelling.moment.micros - spelling.zone.offset.getD 0)
    (number : Option Int) (level : Option Text) :
    ∃ record, ofLine stack (stampedLine spelling bracketed (' ' :: rest)) number level = .ok record ∧
      record.timestamp = some instant := by
  have hspace : Stops (' ' :: rest) := fun c hc => .inl (Option.some.inj hc).symm
  exact exists_ofLine_stampedLine spelling bracketed hspace hcontent hfields hinstant number level

/-- Half past eleven in the evening of a leap day, with half a second, an hour and a half west of
universal time. -/
def leapEvening : Stamp.Spelling where
  date := ⟨2024, 2, 29⟩
  hour := ⟨23, by decide⟩
  minute := ⟨30, by decide⟩
  second := ⟨0, by decide⟩
  separator := ' '
  fraction := ['5']
  zone := .signed true ⟨1, by decide⟩ ⟨30, by decide⟩ false
  isValid_date := by decide
  separator_eq := .inr rfl
  isAsciiDigit_of_mem := List.all_eq_true.mp (by decide)
  length_fraction_le := by decide

/-- The first instant of March at one o'clock, and half a second. -/
def marchInstant : Instant :=
  ⟨(Moment.mk ⟨2024, 3, 1⟩ 1 0 0 500000).micros, by decide +kernel⟩

/-- In universal time the leap day is over. -/
theorem timestamp_of_leapEvening :
    ∃ record, ofLine .direct "[2024-02-29 23:30:00.5-0130] ready +01:00".toList none none =
        .ok record ∧
      record.timestamp = some marchInstant := by
  have hline : stampedLine leapEvening true (' ' :: "ready +01:00".toList) =
      "[2024-02-29 23:30:00.5-0130] ready +01:00".toList := by
    decide +kernel
  have hcontent : Content.ofLine .direct
      (stampedLine leapEvening true (' ' :: "ready +01:00".toList)) =
      .ok ⟨"[2024-02-29 23:30:00.5-0130] ready +01:00".toList, []⟩ := by
    rw [hline]
    rfl
  rw [← hline]
  exact timestamp_of_leading leapEvening true "ready +01:00".toList hcontent
    (fun _ h => nomatch h) (by decide +kernel) none none

end LogSieve.Record
