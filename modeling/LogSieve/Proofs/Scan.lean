import LogSieve.Proofs.Report
import LogSieve.Proofs.Text.Strip
import LogSieve.Scan

/-!
# A scan finds what reports on its lines would

The number of a line takes no part in what is found on it (`ofLine_eq_map`), so a
line contributes to a scan what a report on this line alone says
(`recordOf?_eq_ok`).  The collection then keeps the first of these contributions,
in the order of the lines and under their numbers, however many lines contribute
nothing (`collect_eq_take`).
-/

namespace LogSieve

variable {stack : Stack}

/-! ## Numbers of lines -/

/-- The record under a number. -/
def Record.numbered (number : Nat) (record : Record) : Record :=
  { record with lineNumber := some (Int.ofNat number) }

theorem Record.ofLine_eq_map (raw : Text) (number : Nat) (level : Option Text) :
    Record.ofLine stack raw (some (Int.ofNat number)) level =
      (Record.ofLine stack raw none level).map (Record.numbered number) := by
  unfold Record.ofLine
  cases Content.ofLine stack raw with
  | error fault => rfl
  | ok content =>
      cases hinstant : Record.inferredInstant? raw content.fields with
      | error fault => simp [bind, Except.bind, Except.map, hinstant]
      | ok instant => simp [bind, Except.bind, Except.map, hinstant, Record.numbered]

/-- A number changes nothing of what a query asks. -/
theorem Query.holds_lineNumber (query : Query) (number : Option Int) (record : Record) :
    query.holds stack { record with lineNumber := number } = query.holds stack record := by
  have hcondition : ∀ condition : Query.Condition,
      condition.holds stack { record with lineNumber := number } =
        condition.holds stack record := by
    intro condition
    cases condition <;> rfl
  have hterm : Query.Term.holds stack { record with lineNumber := number } =
      Query.Term.holds stack record := by
    funext term
    rw [Query.Term.holds, Query.Term.holds, hcondition]
  rw [Query.holds, Query.holds, hterm]

theorem Query.holds_numbered (query : Query) (number : Nat) (record : Record) :
    query.holds stack (record.numbered number) = query.holds stack record :=
  query.holds_lineNumber _ record

theorem Window.admits_always (record : Record) : Window.always.admits record = true := by
  unfold Window.admits
  cases record.timestamp with
  | none => rfl
  | some instant => rfl

namespace Scan

/-! ## Single lines -/

/-- What a line contributes to a scan if the report on the line is to be believed: the line itself
under its number, with what is reported of it, unless it is blank or does not match. -/
def contribution? (stack : Stack) (query : Text) : Text × Nat → Option Record
  | (line, number) =>
    match Report.ofLine stack query line none with
    | .ok report =>
      if line.strip ≠ [] ∧ report.isMatch = true then
        some { report.record with raw := line, lineNumber := some (Int.ofNat number) }
      else none
    | .error _ => none

theorem contribution?_of_ofLine {line : Text} {record : Record}
    (h : Record.ofLine stack line none none = .ok record) (query : Text) (number : Nat) :
    contribution? stack query (line, number) =
      if line.strip ≠ [] ∧ (Query.ofText query).holds stack record = true then
        some (record.numbered number)
      else none := by
  obtain ⟨rfl, -⟩ := Record.ofLine_eq_ok h
  have hreport : Report.ofLine stack query record.raw none = .ok _ :=
    Report.ofLine_eq_ok_iff.mpr ⟨record, h, rfl⟩
  simp only [contribution?, hreport, Record.numbered]

/-- A scan takes from a line what the report on the line lets it expect. -/
theorem recordOf?_eq_ok {line : Text} {record : Record}
    (h : Record.ofLine stack line none none = .ok record) (query : Text) (number : Nat) :
    recordOf? stack Window.always (Query.ofText query) number line =
      .ok (contribution? stack query (line, number)) := by
  rw [contribution?_of_ofLine h]
  unfold recordOf?
  by_cases hblank : Text.allBlank line = true
  · simp [hblank, Text.strip_eq_nil_iff.mpr hblank]
  · have hstrip : line.strip ≠ [] := fun hnil => hblank (Text.strip_eq_nil_iff.mp hnil)
    rw [if_neg hblank, Record.ofLine_eq_map, h]
    simp only [Except.map, Window.admits_always, Query.holds_numbered, Bool.true_and, ne_eq,
      hstrip, not_false_eq_true, true_and]

/-! ## Collecting -/

/-- If every line can be read, the collection is made of the first contributions that there is room
for. -/
theorem collect_eq_take {read : Nat → Text → Except LineFault (Option Record)}
    {contribution : Text × Nat → Option Record} {lines : List Text}
    (h : ∀ line ∈ lines, ∀ number, read number line = .ok (contribution (line, number)))
    {room : Nat} (hroom : 0 < room) (found : List Record) (number : Nat) :
    ∃ full, collect read (some room) found number lines =
      .ok (found.reverse ++ ((lines.zipIdx number).filterMap contribution).take room, full) := by
  induction lines generalizing room found number with
  | nil => exact ⟨false, by simp [collect]⟩
  | cons line rest ih =>
      have hrest : ∀ other ∈ rest, ∀ number,
          read number other = .ok (contribution (other, number)) :=
        fun other hother => h other (by simp [hother])
      rw [collect, h line (by simp) number, List.zipIdx_cons, List.filterMap_cons]
      cases contribution (line, number) with
      | none => exact ih hrest hroom found (number + 1)
      | some record =>
          by_cases hlast : room = 1
          · -- the last one that there is room for: the rest is not read
            exact ⟨true, by simp [hlast]⟩
          · obtain ⟨more, rfl⟩ : ∃ more, room = more + 1 := ⟨room - 1, by omega⟩
            obtain ⟨full, hfull⟩ := ih hrest (show 0 < more by omega) (record :: found) (number + 1)
            refine ⟨full, ?_⟩
            simp only [Option.some.injEq, hlast, if_false]
            rw [List.take_succ_cons, List.append_cons, ← List.reverse_cons]
            exact hfull

theorem recordsOf_eq_take {query : Text} {lines : List Text}
    (h : ∀ line ∈ lines, ∃ report, Report.ofLine stack query line none = .ok report) {limit : Nat}
    (hlimit : 0 < limit) :
    recordsOf stack Window.always (Query.ofText query) (some limit) (lines, none) =
      .ok (((lines.zipIdx 1).filterMap (contribution? stack query)).take limit) := by
  have hread : ∀ line ∈ lines, ∀ number,
      recordOf? stack Window.always (Query.ofText query) number line =
        .ok (contribution? stack query (line, number)) := by
    intro line hline number
    obtain ⟨report, hreport⟩ := h line hline
    obtain ⟨record, hrecord, -⟩ := Report.ofLine_eq_ok_iff.mp hreport
    exact recordOf?_eq_ok hrecord query number
  obtain ⟨full, hfull⟩ := collect_eq_take hread hlimit [] 1
  rw [List.reverse_nil, List.nil_append] at hfull
  unfold recordsOf
  rw [hfull]
  cases full <;> rfl

end Scan

end LogSieve
