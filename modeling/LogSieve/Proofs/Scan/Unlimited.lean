import LogSieve.Proofs.Scan

/-!
# Scans without a limit

A scan reads every line whatever it is asked for, and only then asks the window and
the query.  Without a limit it stops at a fault alone, so what it finds are all
records of the file, of which those that are asked for are kept
(`recordsOf_eq_map_filter`, `run_eq_map_filter`).  Everything about numbers and
faults can hence be said of `recordsFrom`, where there is neither a window nor a
query: each record is that of its own line (`ofLine_of_mem_recordsFrom`), and a line
that is not blank has one (`filter_lineNumber_recordsFrom`).
-/

namespace LogSieve

variable {stack : Stack}

/-- Whether a record stands before another one in its file. -/
def Record.standsBefore (first second : Record) : Bool :=
  match first.lineNumber, second.lineNumber with
  | some number, some other => number < other
  | _, _ => false

/-- Records in the order of their lines, no two of them from one line. -/
def Record.InOrder (records : List Record) : Prop :=
  records.Pairwise fun first second =>
    first.standsBefore second = true ∧ second.standsBefore first = false

theorem Record.lineNumber_ofLine {raw : Text} {number : Nat} {level : Option Text} {record : Record}
    (h : Record.ofLine stack raw (some (Int.ofNat number)) level = .ok record) :
    record.lineNumber = some (Int.ofNat number) := by
  rw [Record.ofLine_eq_map] at h
  obtain ⟨unnumbered, -, rfl⟩ := exists_of_map_eq_ok h
  rfl

namespace Scan

/-- The records of all lines that are not blank, the first line having the given number. -/
def recordsFrom (stack : Stack) (number : Nat) : List Text → Except LineFault (List Record)
  | [] => .ok []
  | line :: rest =>
    if Text.allBlank line then recordsFrom stack (number + 1) rest
    else
      match Record.ofLine stack line (some (Int.ofNat number)) none with
      | .error fault => .error fault
      | .ok record => (recordsFrom stack (number + 1) rest).map (record :: ·)

/-- Whether a record is asked for. -/
def asks (stack : Stack) (window : Window) (query : Query) (record : Record) : Bool :=
  window.admits record && query.holds stack record

/-- A query without terms leaves the choice to the window. -/
theorem asks_of_isEmpty {query : Query} (h : query.isEmpty = true) (window : Window)
    (record : Record) : asks stack window query record = window.admits record := by
  have hterms : query.terms = [] := List.isEmpty_iff.mp h
  rw [asks, Query.holds, hterms, List.all_nil, Bool.and_true]

/-- The records of the lines of a file, unless a fault ends them. -/
def recordsIn (stack : Stack) (lines : List Text × Option Store.ReadFault) :
    Except ScanFault (List Record) :=
  match recordsFrom stack 1 lines.1, lines.2 with
  | .error fault, _ => .error (.line fault)
  | .ok records, none => .ok records
  | .ok _, some fault => .error (.reading fault)

/-- The records of the file of a scan, whatever the scan asks for. -/
def recordsOfFile (host : Host) (scan : Scan) : Except ScanFault (List Record) := do
  let path := Store.Path.ofText scan.path
  let bytes ← fileAt host path
  match Encoding.Codec.ofName? scan.encoding with
  | none => .error .unknownEncoding
  | some codec =>
    recordsIn host.stack ((Store.Contents.ofFile path.name bytes).lines codec scan.onMalformed)

/-! ## What is asked for is kept -/

theorem collect_eq_map_filter (window : Window) (query : Query) (found : List Record)
    (number : Nat) (lines : List Text) :
    collect (recordOf? stack window query) none found number lines =
      (recordsFrom stack number lines).map fun records =>
        (found.reverse ++ records.filter (asks stack window query), false) := by
  induction lines generalizing found number with
  | nil => simp [collect, recordsFrom, Except.map]
  | cons line rest ih =>
      rw [collect, recordsFrom, recordOf?]
      by_cases hblank : Text.allBlank line = true
      · rw [if_pos hblank, if_pos hblank]
        exact ih found (number + 1)
      · rw [if_neg hblank, if_neg hblank]
        cases Record.ofLine stack line (some (Int.ofNat number)) none with
        | error fault => rfl
        | ok record =>
            cases hasks : asks stack window query record with
            | true =>
                have hkept : (window.admits record && query.holds stack record) = true := hasks
                simp only [Except.map, hkept, if_true, reduceCtorEq, if_false, Option.map_none, ih]
                cases recordsFrom stack (number + 1) rest with
                | error fault => rfl
                | ok records => simp [hasks]
            | false =>
                have hdropped : (window.admits record && query.holds stack record) = false := hasks
                simp only [Except.map, hdropped, Bool.false_eq_true, if_false, ih]
                cases recordsFrom stack (number + 1) rest with
                | error fault => rfl
                | ok records => simp [hasks]

theorem recordsOf_eq_map_filter (window : Window) (query : Query)
    (lines : List Text × Option Store.ReadFault) :
    recordsOf stack window query none lines =
      (recordsIn stack lines).map (List.filter (asks stack window query)) := by
  obtain ⟨lines, fault⟩ := lines
  unfold recordsOf recordsIn
  rw [collect_eq_map_filter]
  cases recordsFrom stack 1 lines with
  | error fault => rfl
  | ok records =>
      cases fault with
      | none => rfl
      | some fault => rfl

/-- A scan without a limit finds those records of its file that it asks for. -/
theorem run_eq_map_filter (host : Host) (scan : Scan) (window : Window) :
    run host { scan with window := .ok window, limit := none } =
      (recordsOfFile host scan).map (List.filter (asks host.stack window scan.query)) := by
  unfold run recordsOfFile
  simp only [Option.any_none, Bool.false_eq_true, if_false]
  cases fileAt host (Store.Path.ofText scan.path) with
  | error fault => rfl
  | ok bytes =>
      cases Encoding.Codec.ofName? scan.encoding with
      | none => rfl
      | some codec => exact recordsOf_eq_map_filter window scan.query _

/-! ## Line by line -/

/-- All that reading the first one of some lines can do, faults apart. -/
theorem recordsFrom_cons_eq_ok_iff {number : Nat} {line : Text} {rest : List Text}
    {records : List Record} :
    recordsFrom stack number (line :: rest) = .ok records ↔
      (Text.allBlank line = true ∧ recordsFrom stack (number + 1) rest = .ok records) ∨
        (Text.allBlank line = false ∧
          ∃ record others, Record.ofLine stack line (some (Int.ofNat number)) none = .ok record ∧
            recordsFrom stack (number + 1) rest = .ok others ∧ records = record :: others) := by
  rw [recordsFrom]
  cases Text.allBlank line with
  | true => simp
  | false =>
      cases Record.ofLine stack line (some (Int.ofNat number)) none with
      | error fault => simp
      | ok record =>
          cases recordsFrom stack (number + 1) rest with
          | error fault => simp [Except.map]
          | ok others => simp [Except.map, eq_comm]

theorem recordsFrom_append {number : Nat} {first second : List Text} {earlier later : List Record}
    (hfirst : recordsFrom stack number first = .ok earlier)
    (hsecond : recordsFrom stack (number + first.length) second = .ok later) :
    recordsFrom stack number (first ++ second) = .ok (earlier ++ later) := by
  induction first generalizing number earlier with
  | nil =>
      obtain rfl : [] = earlier := Except.ok.inj hfirst
      exact hsecond
  | cons line rest ih =>
      rw [List.length_cons, Nat.add_comm rest.length 1, ← Nat.add_assoc] at hsecond
      rw [List.cons_append, recordsFrom_cons_eq_ok_iff]
      rcases recordsFrom_cons_eq_ok_iff.mp hfirst with
        ⟨hblank, hrest⟩ | ⟨hblank, record, others, hrecord, hrest, rfl⟩
      · exact .inl ⟨hblank, ih hrest hsecond⟩
      · exact .inr ⟨hblank, record, others ++ later, hrecord, ih hrest hsecond, rfl⟩

/-- Records have numbers, none below that of the first line. -/
theorem exists_lineNumber_of_mem_recordsFrom {number : Nat} {lines : List Text}
    {records : List Record} (h : recordsFrom stack number lines = .ok records) {record : Record}
    (hrecord : record ∈ records) :
    ∃ other, number ≤ other ∧ record.lineNumber = some (Int.ofNat other) := by
  induction lines generalizing number records with
  | nil =>
      obtain rfl : [] = records := Except.ok.inj h
      cases hrecord
  | cons line rest ih =>
      rcases recordsFrom_cons_eq_ok_iff.mp h with
        ⟨-, hrest⟩ | ⟨-, first, others, hfirst, hrest, rfl⟩
      · obtain ⟨other, hle, hother⟩ := ih hrest hrecord
        exact ⟨other, by omega, hother⟩
      · rcases List.mem_cons.mp hrecord with rfl | hmem
        · exact ⟨number, Nat.le_refl number, Record.lineNumber_ofLine hfirst⟩
        · obtain ⟨other, hle, hother⟩ := ih hrest hmem
          exact ⟨other, by omega, hother⟩

/-- The number of a record leads to its line. -/
theorem raw_of_mem_recordsFrom {number : Nat} {lines : List Text} {records : List Record}
    (h : recordsFrom stack number lines = .ok records) {record : Record}
    (hrecord : record ∈ records) :
    ∃ i, record.lineNumber = some (Int.ofNat (number + i)) ∧ lines[i]? = some record.raw := by
  induction lines generalizing number records with
  | nil =>
      obtain rfl : [] = records := Except.ok.inj h
      cases hrecord
  | cons line rest ih =>
      have hlater : ∀ others, recordsFrom stack (number + 1) rest = .ok others → record ∈ others →
          ∃ i, record.lineNumber = some (Int.ofNat (number + i)) ∧
            (line :: rest)[i]? = some record.raw := by
        intro others hothers hmem
        obtain ⟨i, hnumber, hraw⟩ := ih hothers hmem
        exact ⟨i + 1, by rw [hnumber, Nat.add_right_comm, Nat.add_assoc], hraw⟩
      rcases recordsFrom_cons_eq_ok_iff.mp h with
        ⟨-, hrest⟩ | ⟨-, first, others, hfirst, hrest, rfl⟩
      · exact hlater records hrest hrecord
      · rcases List.mem_cons.mp hrecord with rfl | hmem
        · refine ⟨0, Record.lineNumber_ofLine hfirst, ?_⟩
          rw [List.getElem?_cons_zero, (Record.ofLine_eq_ok hfirst).1]
        · exact hlater others hrest hmem

/-- A line that is not blank has one record, and so has its number. -/
theorem filter_lineNumber_recordsFrom {number : Nat} {lines : List Text} {records : List Record}
    (h : recordsFrom stack number lines = .ok records) {i : Nat} {line : Text}
    (hline : lines[i]? = some line) (hblank : Text.allBlank line = false) :
    ∃ record, records.filter (fun other => other.lineNumber = some (Int.ofNat (number + i))) =
      [record] ∧ record.raw = line := by
  induction lines generalizing number records i with
  | nil => cases hline
  | cons first rest ih =>
      cases i with
      | zero =>
          obtain rfl : first = line := Option.some.inj hline
          rcases recordsFrom_cons_eq_ok_iff.mp h with
            ⟨hfirst, -⟩ | ⟨-, record, others, hrecord, hrest, rfl⟩
          · rw [hfirst] at hblank
            cases hblank
          · -- the records behind the first one have greater numbers
            have hothers : others.filter
                (fun other => other.lineNumber = some (Int.ofNat (number + 0))) = [] := by
              rw [List.filter_eq_nil_iff]
              intro other hother
              obtain ⟨next, hnext, heq⟩ := exists_lineNumber_of_mem_recordsFrom hrest hother
              simp only [heq, Int.ofNat_eq_natCast, Option.some.injEq, Nat.add_zero,
                decide_eq_true_eq]
              omega
            refine ⟨record, ?_, (Record.ofLine_eq_ok hrecord).1⟩
            rw [List.filter_cons_of_pos, hothers]
            simpa using Record.lineNumber_ofLine hrecord
      | succ i =>
          have hnumber : number + (i + 1) = number + 1 + i := by omega
          rw [List.getElem?_cons_succ] at hline
          rw [hnumber]
          rcases recordsFrom_cons_eq_ok_iff.mp h with
            ⟨-, hrest⟩ | ⟨-, record, others, hrecord, hrest, rfl⟩
          · exact ih hrest hline
          · rw [List.filter_cons_of_neg]
            · exact ih hrest hline
            · rw [Record.lineNumber_ofLine hrecord]
              simp only [Int.ofNat_eq_natCast, Option.some.injEq, decide_eq_true_eq]
              omega

/-- Each record is that of its own line, under the number that it has. -/
theorem ofLine_of_mem_recordsFrom {number : Nat} {lines : List Text} {records : List Record}
    (h : recordsFrom stack number lines = .ok records) {record : Record}
    (hrecord : record ∈ records) :
    Record.ofLine stack record.raw record.lineNumber none = .ok record := by
  induction lines generalizing number records with
  | nil =>
      obtain rfl : [] = records := Except.ok.inj h
      cases hrecord
  | cons line rest ih =>
      rcases recordsFrom_cons_eq_ok_iff.mp h with
        ⟨-, hrest⟩ | ⟨-, first, others, hfirst, hrest, rfl⟩
      · exact ih hrest hrecord
      · rcases List.mem_cons.mp hrecord with rfl | hmem
        · rw [Record.lineNumber_ofLine hfirst, (Record.ofLine_eq_ok hfirst).1]
          exact hfirst
        · exact ih hrest hmem

/-- The record of a line is the only one with its number. -/
theorem mem_recordsFrom_iff {number : Nat} {lines : List Text} {records : List Record}
    (h : recordsFrom stack number lines = .ok records) {i : Nat} {line : Text}
    (hline : lines[i]? = some line) (hblank : Text.allBlank line = false) {record : Record}
    (hrecord : Record.ofLine stack line (some (Int.ofNat (number + i))) none = .ok record)
    (other : Record) :
    other ∈ records ∧ other.lineNumber = some (Int.ofNat (number + i)) ↔ other = record := by
  obtain ⟨found, hfilter, hraw⟩ := filter_lineNumber_recordsFrom h hline hblank
  have hmem : ∀ other, other ∈ records ∧ other.lineNumber = some (Int.ofNat (number + i)) ↔
      other = found := by
    intro other
    have hsingle : other ∈ [found] ↔ other = found := List.mem_singleton
    rw [← hsingle, ← hfilter, List.mem_filter, decide_eq_true_eq]
  obtain ⟨hfound, hnumber⟩ := (hmem found).mpr rfl
  obtain rfl : found = record := by
    have hread := ofLine_of_mem_recordsFrom h hfound
    rw [hraw, hnumber, hrecord] at hread
    exact (Except.ok.inj hread).symm
  exact hmem other

theorem inOrder_recordsFrom {number : Nat} {lines : List Text} {records : List Record}
    (h : recordsFrom stack number lines = .ok records) : Record.InOrder records := by
  induction lines generalizing number records with
  | nil =>
      obtain rfl : [] = records := Except.ok.inj h
      exact .nil
  | cons line rest ih =>
      rcases recordsFrom_cons_eq_ok_iff.mp h with
        ⟨-, hrest⟩ | ⟨-, record, others, hrecord, hrest, rfl⟩
      · exact ih hrest
      · refine List.pairwise_cons.mpr ⟨fun other hother => ?_, ih hrest⟩
        obtain ⟨next, hnext, hnumber⟩ := exists_lineNumber_of_mem_recordsFrom hrest hother
        simp only [Record.standsBefore, Record.lineNumber_ofLine hrecord, hnumber,
          Int.ofNat_eq_natCast, decide_eq_true_eq, decide_eq_false_iff_not]
        omega

theorem exists_lines_of_recordsOfFile {host : Host} {scan : Scan} {records : List Record}
    (h : recordsOfFile host scan = .ok records) :
    ∃ lines, recordsFrom host.stack 1 lines = .ok records := by
  obtain ⟨bytes, -, hbytes⟩ := exists_of_bind_eq_ok h
  split at hbytes
  · cases hbytes
  · unfold recordsIn at hbytes
    split at hbytes
    · cases hbytes
    · rename_i hrecords _
      rw [Except.ok.inj hbytes] at hrecords
      exact ⟨_, hrecords⟩
    · cases hbytes

/-! ## Windows -/

/-- Of what is found without a window, a window keeps the records that it admits. -/
theorem run_in_window {host : Host} {scan : Scan} {all : List Record}
    (h : run host { scan with window := .ok .always, limit := none } = .ok all)
    (window : Window) :
    run host { scan with window := .ok window, limit := none } =
      .ok (all.filter window.admits) := by
  rw [run_eq_map_filter] at h ⊢
  obtain ⟨records, hrecords, rfl⟩ := exists_of_map_eq_ok h
  have hasks : (fun record => window.admits record && asks host.stack .always scan.query record) =
      asks host.stack window scan.query :=
    funext fun record => by rw [asks, asks, Window.admits_always, Bool.true_and]
  rw [hrecords, List.filter_filter, hasks]
  rfl

theorem ofLine_of_mem_run {host : Host} {scan : Scan} {window : Window} {all : List Record}
    (h : run host { scan with window := .ok window, limit := none } = .ok all) {record : Record}
    (hrecord : record ∈ all) :
    Record.ofLine host.stack record.raw record.lineNumber none = .ok record := by
  rw [run_eq_map_filter] at h
  obtain ⟨records, hrecords, rfl⟩ := exists_of_map_eq_ok h
  obtain ⟨lines, hlines⟩ := exists_lines_of_recordsOfFile hrecords
  exact ofLine_of_mem_recordsFrom hlines (List.mem_of_mem_filter hrecord)

end Scan

end LogSieve
