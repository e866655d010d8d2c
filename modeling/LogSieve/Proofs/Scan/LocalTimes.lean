import LogSieve.Proofs.Record.Leading
import LogSieve.Proofs.Scan.Faults
import LogSieve.Proofs.Window

/-!
# Times without an offset

A bound of a window may be given without an offset; it is then meant on the clock of the
scan, whose offset is given with the scan.  A line may show a time without an offset too,
and this one is always taken for universal time.  So what a scan from a bound on finds are
the lines that show the bound or later once the offset is added to them
(`lines_compare`), and this is the order of the times as they are shown if and only if the
clock of the scan is in universal time.
-/

namespace LogSieve

variable {stack : Stack}

open Calendar (Instant Moment Stamp microsPerDay)

/-! ## Lines -/

namespace Record

/-- A line shows a moment in whole seconds and without an offset, alone or with a space and a text
behind it, and its fields do not name an instant. -/
structure Shows (stack : Stack) (line : Text) (shown : Moment) : Prop where
  isInner : shown.IsInner
  isWhole : shown.micro = 0
  line_eq : line = shown.iso ∨ ∃ rest, line = shown.iso ++ ' ' :: rest
  fields : ∃ content, Content.ofLine stack line = .ok content ∧ AreUntimed content.fields

variable {line : Text} {shown : Moment}

/-- Such a line is that of a stamp without an offset. -/
theorem Shows.exists_stampedLine (h : Shows stack line shown) :
    ∃ after, Stops after ∧
      line = stampedLine (.ofMoment shown h.isInner.isValid .missing) false after := by
  have htext := Stamp.Spelling.text_ofMoment h.isInner.isValid .missing
  rcases h.line_eq with hline | ⟨rest, hline⟩
  · refine ⟨[], fun _ hc => (nomatch hc), ?_⟩
    simp [stampedLine, htext, hline, Stamp.Zone.text]
  · refine ⟨' ' :: rest, fun _ hc => .inl (Option.some.inj hc).symm, ?_⟩
    simp [stampedLine, htext, hline, Stamp.Zone.text]

theorem Shows.allBlank_eq_false (h : Shows stack line shown) : Text.allBlank line = false := by
  obtain ⟨after, -, hline⟩ := h.exists_stampedLine
  obtain ⟨c, rest, hcons, hblank⟩ := exists_stampedLine_eq_cons
    (.ofMoment shown h.isInner.isValid .missing) false after
  rw [hline, hcons, Text.allBlank, List.all_cons, hblank, Bool.false_and]

/-- The moment on the line is taken for one in universal time. -/
theorem Shows.exists_ofLine (h : Shows stack line shown) (number : Option Int)
    (level : Option Text) :
    ∃ record instant, ofLine stack line number level = .ok record ∧
      record.timestamp = some instant ∧ instant.micros = shown.micros := by
  obtain ⟨after, hstops, hline⟩ := h.exists_stampedLine
  obtain ⟨content, hcontent, hfields⟩ := h.fields
  obtain ⟨instant, hinstant⟩ := h.isInner.exists_instant (show (0 : Int).natAbs < _ by decide)
  rw [hline] at hcontent ⊢
  have hmicros : (instant.micros : Int) =
      (Stamp.Spelling.ofMoment shown h.isInner.isValid .missing).moment.micros -
        (Stamp.Zone.offset .missing).getD 0 := by
    rw [Stamp.Spelling.moment_ofMoment, hinstant]
    rfl
  obtain ⟨record, hrecord, htimestamp⟩ :=
    exists_ofLine_stampedLine _ false hstops hcontent hfields hmicros number level
  exact ⟨record, instant, hrecord, htimestamp, by omega⟩

end Record

namespace Scan

/-! ## Places -/

/-- A scan comes to an end and finds the line in a place; places are counted from zero. -/
def Finds (host : Host) (scan : Scan) (place : Nat) : Prop :=
  ∃ found, run host scan = .ok found ∧
    ∃ record ∈ found, record.lineNumber = some (Int.ofNat (place + 1))

/-- Whether a line is found is a matter of its own record. -/
theorem finds_in_window_iff {host : Host} {scan : Scan} {lines : List Text}
    (hlines : HasLines host scan lines) (hreadable : AllReadable host.stack lines) {place : Nat}
    {line : Text} (hline : lines[place]? = some line) (hblank : Text.allBlank line = false)
    {record : Record}
    (hrecord : Record.ofLine host.stack line (some (Int.ofNat (place + 1))) none = .ok record)
    (window : Window) :
    Finds host { scan with window := .ok window, limit := none } place ↔
      asks host.stack window scan.query record = true := by
  obtain ⟨records, hrecords⟩ : ∃ records, recordsFrom host.stack 1 lines = .ok records :=
    exists_recordsFrom_iff.mpr hreadable
  have hrun : run host { scan with window := .ok window, limit := none } =
      .ok (records.filter (asks host.stack window scan.query)) := by
    rw [run_eq_map_filter, recordsOfFile_of_hasLines hlines, hrecords]
    rfl
  rw [Nat.add_comm place 1] at hrecord
  have hmem := mem_recordsFrom_iff hrecords hline hblank hrecord
  rw [Nat.add_comm 1 place] at hmem
  obtain ⟨hin, hnumber⟩ := (hmem record).mpr rfl
  rw [Finds, hrun]
  constructor
  · rintro ⟨_, ⟨⟩, found, hfound, hplace⟩
    obtain ⟨hfound, hasks⟩ := List.mem_filter.mp hfound
    obtain rfl := (hmem found).mp ⟨hfound, hplace⟩
    exact hasks
  · intro hasks
    exact ⟨_, rfl, record, List.mem_filter.mpr ⟨hin, hasks⟩, hnumber⟩

/-! ## Bounds -/

/-- The scan for the records from a moment on, on a clock with an offset. -/
def since (defaultOffset : Int) (bound : Moment) (scan : Scan) : Scan :=
  { scan with window := Window.ofStamps defaultOffset (some ⟨bound, none⟩) none, limit := none }

theorem since_eq {defaultOffset : Int} {bound : Moment} {instant : Instant}
    (h : bound.toInstant? defaultOffset = some instant) (scan : Scan) :
    scan.since defaultOffset bound =
      { scan with window := .ok ⟨some instant, none⟩, limit := none } := by
  have hstamp : (Stamp.mk bound none).toInstant? defaultOffset = some instant := h
  simp [since, Window.ofStamps, Window.ofBounds, Window.isOrdered, hstamp, bind, Except.bind]

/-- In a place of the file of a scan without terms stands a line that shows a moment, and all lines
of the file can be read. -/
inductive ShowsAt (host : Host) (scan : Scan) (place : Nat) (shown : Moment) : Prop
  | intro {lines : List Text} {line : Text} (hlines : HasLines host scan lines)
      (hreadable : AllReadable host.stack lines) (hline : lines[place]? = some line)
      (hquery : scan.query.isEmpty = true) (hshows : Record.Shows host.stack line shown)

/-- Whether a line that shows a moment is found by the scan from a bound on is told by comparing the
two, in every file. -/
def LinesCompareBy (offset : Int) (order : Moment → Moment → Prop) : Prop :=
  ∀ (host : Host) (scan : Scan) (place : Nat) (bound shown : Moment),
    ShowsAt host scan place shown → bound.IsInner →
      (Finds host (scan.since offset bound) place ↔ order bound shown)

theorem linesCompareBy_shifted {offset : Int} (hoffset : offset.natAbs < microsPerDay) :
    LinesCompareBy offset fun bound shown => (bound.micros : Int) ≤ shown.micros + offset := by
  rintro host scan place bound shown ⟨hlines, hreadable, hline, hquery, hshows⟩ hbound
  obtain ⟨first, hfirst⟩ := hbound.exists_instant hoffset
  obtain ⟨record, instant, hrecord, htimestamp, hinstant⟩ :=
    hshows.exists_ofLine (some (Int.ofNat (place + 1))) none
  have hadmits : (Window.mk (some first) none).admits record = true ↔
      first.micros ≤ instant.micros :=
    Window.admits_since htimestamp
  rw [since_eq (Moment.toInstant?_eq_some hfirst),
    finds_in_window_iff hlines hreadable hline hshows.allBlank_eq_false hrecord,
    asks_of_isEmpty hquery, hadmits]
  omega

/-! ## One line -/

/-- The first second of the year 2000. -/
def newYear : Moment := ⟨⟨2000, 1, 1⟩, 0, 0, 0, 0⟩

/-- A host with a file of one line, which shows that second. -/
def newYearHost : Host := .withFile ("2000-01-01T00:00:00\n".toList.flatMap Encoding.utf8Bytes)

/-- The scan of the whole file. -/
def newYearScan : Scan := .ofFile ['a'] ⟨[], []⟩ .always none

theorem shows_newYear : Record.Shows .inLoop "2000-01-01T00:00:00".toList newYear where
  isInner := ⟨by decide, by decide, by decide⟩
  isWhole := rfl
  line_eq := .inl (by decide +kernel)
  fields := ⟨⟨"2000-01-01T00:00:00".toList, []⟩, rfl, fun _ h => nomatch h⟩

theorem showsAt_newYearHost : ShowsAt newYearHost newYearScan 0 newYear := by
  have hlines : HasLines newYearHost newYearScan ["2000-01-01T00:00:00".toList] :=
    ⟨_, .utf8, rfl, by decide, by decide +kernel⟩
  refine .intro hlines ?_ rfl rfl shows_newYear
  intro raw hraw _
  obtain rfl := List.mem_singleton.mp hraw
  obtain ⟨record, -, hrecord, -⟩ := shows_newYear.exists_ofLine none none
  exact Record.exists_ofLine_iff.mp ⟨record, hrecord⟩

/-- A line without an offset is compared with a bound as if the offset of the scan were added to the
line, which is the order of both as they are written only where there is nothing to add. -/
theorem lines_compare {offset : Int} (hoffset : offset.natAbs < microsPerDay) :
    (LinesCompareBy offset fun bound shown => (bound.micros : Int) ≤ shown.micros + offset) ∧
      ((LinesCompareBy offset fun bound shown => bound.micros ≤ shown.micros) ↔ offset = 0) := by
  have hshifted := linesCompareBy_shifted hoffset
  refine ⟨hshifted, ?_, ?_⟩
  · intro hwritten
    have hagree : ∀ bound : Moment, bound.IsInner →
        ((bound.micros : Int) ≤ newYear.micros + offset ↔ bound.micros ≤ newYear.micros) := by
      intro bound hbound
      exact (hshifted _ _ _ _ _ showsAt_newYearHost hbound).symm.trans
        (hwritten _ _ _ _ _ showsAt_newYearHost hbound)
    -- the bound is the moment on the line, or a microsecond later
    have hsame := hagree newYear shows_newYear.isInner
    have hlater := hagree { newYear with micro := 1 } ⟨by decide, by decide, by decide⟩
    have hmicro : ({ newYear with micro := 1 } : Moment).micros = newYear.micros + 1 := rfl
    rw [hmicro] at hlater
    omega
  · rintro rfl
    simpa only [Int.add_zero, Int.ofNat_le] using hshifted

/-- An hour east of universal time, the line is found although it shows an hour less than the
bound. -/
theorem lines_compare_of_eastClock :
    Finds newYearHost (newYearScan.since 3600000000 { newYear with hour := 1 }) 0 ∧
      ¬ LinesCompareBy 3600000000 fun bound shown => bound.micros ≤ shown.micros := by
  have hcompare := lines_compare (show (3600000000 : Int).natAbs < microsPerDay by decide)
  constructor
  · refine (hcompare.1 _ _ _ _ _ showsAt_newYearHost ⟨by decide, by decide, by decide⟩).mpr ?_
    decide +kernel
  · exact hcompare.2.not.mpr (by decide)

end Scan

end LogSieve
