import LogSieve.Answer
import LogSieve.Proofs.Scan
import LogSieve.Proofs.Scan.PlainFile
import LogSieve.Proofs.Stack

/-!
# Searching a file and reporting on its lines

A search in a plain file answers with what reports on the single lines of the file say:
one entry for each line that matches and is not blank, up to the limit, under its number
in the file.  This is so if the search leaves as much of the stack as these lines and the
patterns of the query need; a line that is reported on can be too deep for a search
(`Search.answer_of_nestedLine`).
-/

namespace LogSieve.Search

open Store (Path)

/-! ## The records of a search -/

section

variable {host : Host} {path query : Text} {limit : Option Int} {lineEnd : Encoding.LineEnd}

/-- A positive limit stays positive when it is capped, and so does the default. -/
theorem capped_pos (hlimit : ∀ number ∈ limit, 0 < number) :
    0 < limit.getD defaultLimit ∧ 0 < min (limit.getD defaultLimit) hardLimit := by
  have hhard : 0 < hardLimit := by decide
  have hpositive : 0 < limit.getD defaultLimit := by
    cases limit with
    | none => decide
    | some number => exact hlimit number rfl
  omega

/-- A search in a plain file without a window goes through the lines of the file. -/
theorem run_eq_recordsOf {lines : List Text}
    (hfile : host.HasPlainFile path (Store.bytesOfLines lineEnd lines))
    (hlines : ∀ line ∈ lines, Encoding.IsLine line)
    (hlimit : ∀ number ∈ limit, 0 < number) (query : Text) (includeRaw : Bool) :
    run host hardLimit ⟨path, query, none, none, limit, includeRaw⟩ =
      (Scan.recordsOf host.stack .always (.ofText query)
        (some (min (limit.getD defaultLimit) hardLimit).toNat) (lines, none)).mapError .scan := by
  obtain ⟨hpositive, hcapped⟩ := capped_pos hlimit
  have hrun := Scan.run_plainFile hfile (.ofText query) .always
    (show ∀ number ∈ some (min (limit.getD defaultLimit) hardLimit), 0 < number by
      simpa using hcapped)
  rw [Store.linesOfBytes_bytesOfLines .replace hlines] at hrun
  unfold run
  rw [if_neg (Int.not_le.mpr hpositive)]
  exact congrArg (Except.mapError SearchFault.scan) hrun

/-- A line that cannot be read ends the search if it is the first one. -/
theorem run_eq_error {line : Text} {rest : List Text} {fault : LineFault}
    (hfile : host.HasPlainFile path (Store.bytesOfLines lineEnd (line :: rest)))
    (hlines : ∀ other ∈ line :: rest, Encoding.IsLine other) (hblank : Text.allBlank line = false)
    (hfault : Record.ofLine host.stack line none none = .error fault)
    (hlimit : ∀ number ∈ limit, 0 < number) (query : Text) (includeRaw : Bool) :
    run host hardLimit ⟨path, query, none, none, limit, includeRaw⟩ =
      .error (.scan (.line fault)) := by
  have hnumbered : Record.ofLine host.stack line (some (Int.ofNat 1)) none = .error fault := by
    rw [Record.ofLine_eq_map, hfault]
    rfl
  rw [run_eq_recordsOf hfile hlines hlimit]
  simp only [Scan.recordsOf, Scan.collect, Scan.recordOf?, hblank, hnumbered, Bool.false_eq_true,
    if_false, Except.map, Except.mapError]

/-- A search in a plain file without a window finds the first lines that are not blank and match
according to the report on each of them, as many as the limit allows. -/
theorem run_eq_take_contributions {lines : List Text}
    (hfile : host.HasPlainFile path (Store.bytesOfLines lineEnd lines))
    (hlines : ∀ line ∈ lines, Encoding.IsLine line)
    (hreports : ∀ line ∈ lines, ∃ report, Report.ofLine host.stack query line none = .ok report)
    (hlimit : ∀ number ∈ limit, 0 < number) (includeRaw : Bool) :
    run host hardLimit ⟨path, query, none, none, limit, includeRaw⟩ =
      .ok (((lines.zipIdx 1).filterMap (Scan.contribution? host.stack query)).take
        (min (limit.getD defaultLimit) hardLimit).toNat) := by
  have hcapped := (capped_pos hlimit).2
  rw [run_eq_recordsOf hfile hlines hlimit, Scan.recordsOf_eq_take hreports (by omega)]
  rfl

end

/-! ## The entries of the answer -/

/-- The entry of a line if the report on the line is to be believed: under its number, with the level,
the message and the fields that are reported, unless the line is blank or does not match. -/
def reported? (stack : Stack) (query : Text) (includeRaw : Bool) : Text × Nat → Option Entry
  | (line, number) =>
    match Report.ofLine stack query line none with
    | .ok report =>
      if line.strip ≠ [] ∧ report.isMatch = true then
        some
          { lineNumber := some number
            timestamp := report.record.timestamp.map Calendar.Instant.iso
            level := report.record.level
            message := report.record.message
            fields := if report.record.fields.isEmpty then none else some report.record.fields
            raw := if includeRaw then some line else none }
      else none
    | .error _ => none

theorem map_entry_contribution? (stack : Stack) (query : Text) (includeRaw : Bool)
    (numbered : Text × Nat) :
    (Scan.contribution? stack query numbered).map (Record.entry includeRaw) =
      reported? stack query includeRaw numbered := by
  obtain ⟨line, number⟩ := numbered
  unfold Scan.contribution? reported?
  cases hreport : Report.ofLine stack query line none with
  | error fault => simp only [hreport, Option.map_none]
  | ok report =>
      simp only [hreport]
      split <;> rfl

/-- A search in a plain file without a window answers with the first entries that reports on the lines
let expect, as many as the limit allows, and with their number; none of the lines is too deep for
the search, and the query is understood as it is by the one who asks for the reports. -/
theorem answer_eq_take_entries {stack : Stack} {host : Host} {path query : Text}
    {limit : Option Int} {lineEnd : Encoding.LineEnd} {lines : List Text}
    (hfile : host.HasPlainFile path (Store.bytesOfLines lineEnd lines))
    (hlines : ∀ line ∈ lines, Encoding.IsLine line)
    (hreports : ∀ line ∈ lines, ∃ report, Report.ofLine stack query line none = .ok report)
    (hdeep : ∀ line ∈ lines, Content.ofLine host.stack line ≠ .error .tooDeep)
    (hquery : (Query.ofText query).ReadsAlike stack host.stack)
    (hlimit : ∀ number ∈ limit, 0 < number) (includeRaw : Bool) :
    ∃ answer, Search.answer host hardLimit ⟨path, query, none, none, limit, includeRaw⟩ =
        .ok answer ∧
      answer.entries = ((lines.zipIdx 1).filterMap (reported? stack query includeRaw)).take
        (min (limit.getD defaultLimit) hardLimit).toNat ∧
      answer.count = answer.entries.length ∧
      answer.tokens = (Query.ofText query).tokens := by
  have hsame : ∀ line ∈ lines, ∃ report, Report.ofLine stack query line none = .ok report ∧
      Report.ofLine host.stack query line none = .ok report := by
    intro line hline
    obtain ⟨report, hreport⟩ := hreports line hline
    exact ⟨report, hreport, Report.ofLine_eq_of_readsAlike hreport (hdeep line hline) hquery⟩
  have hentries : ((lines.zipIdx 1).filterMap (Scan.contribution? host.stack query)).map
      (Record.entry includeRaw) = (lines.zipIdx 1).filterMap (reported? stack query includeRaw) := by
    rw [List.map_filterMap]
    refine List.filterMap_congr fun (line, number) hnumbered => ?_
    obtain ⟨report, hreport, hother⟩ := hsame line (List.fst_mem_of_mem_zipIdx hnumbered)
    rw [map_entry_contribution?, reported?, reported?, hreport, hother]
  have hrun := run_eq_take_contributions hfile hlines
    (fun line hline => (hsame line hline).imp fun _ h => h.2) hlimit includeRaw
  refine ⟨_, by rw [answer, hrun]; rfl, ?_, ?_, rfl⟩
  · rw [List.map_take, hentries]
  · exact (List.length_map _).symm

/-- Of three lines with both line ends, the first blank and the second one that the pattern does not
match, the third makes the only entry, under its number. -/
theorem answer_of_three_lines :
    ∃ answer, Search.answer (.withFile (Store.bytesOfLines .both [[], ['z'], ['y']])) hardLimit
        ⟨['a'], "/Y/".toList, none, none, some 1, true⟩ = .ok answer ∧
      answer.entries = [⟨some 3, none, none, some ['y'], none, some ['y']⟩] ∧ answer.count = 1 := by
  have hlines : ∀ line ∈ ([[], ['z'], ['y']] : List Text), Encoding.IsLine line :=
    fun line hmem => ⟨by revert line; decide, by revert line; decide⟩
  have hreports : ∀ line ∈ ([[], ['z'], ['y']] : List Text),
      ∃ report, Report.ofLine .direct "/Y/".toList line none = .ok report := by
    intro line hmem
    simp only [List.mem_cons, List.not_mem_nil, or_false] at hmem
    rcases hmem with rfl | rfl | rfl <;> exact ⟨_, rfl⟩
  have hdeep : ∀ line ∈ ([[], ['z'], ['y']] : List Text),
      Content.ofLine .inLoop line ≠ .error .tooDeep := by
    intro line hmem
    simp only [List.mem_cons, List.not_mem_nil, or_false] at hmem
    rcases hmem with rfl | rfl | rfl <;> exact fun h => nomatch h
  have hfits : ∀ stack ∈ [Stack.direct, .inLoop], (Query.ofText "/Y/".toList).Fits stack := by
    intro stack hstack negated body flags hterm
    have hquery : Query.ofText "/Y/".toList = ⟨"/Y/".toList, [⟨false, .pattern ['Y'] []⟩]⟩ := by
      decide +kernel
    rw [hquery, List.mem_singleton] at hterm
    obtain ⟨-, rfl, rfl⟩ : negated = false ∧ body = ['Y'] ∧ flags = [] := by simpa using hterm
    simp only [List.mem_cons, List.not_mem_nil, or_false] at hstack
    rcases hstack with rfl | rfl <;> exact fun h => nomatch h
  obtain ⟨answer, hanswer, hentries, hcount, -⟩ := answer_eq_take_entries
    (Host.hasPlainFile_withFile _) hlines hreports hdeep
    (Query.readsAlike_of_fits (hfits .direct (by simp)) (hfits .inLoop (by simp)))
    (show ∀ number ∈ some (1 : Int), 0 < number by decide) true
  refine ⟨answer, hanswer, hentries.trans ?_, ?_⟩
  · decide +kernel
  · rw [hcount, hentries]
    decide +kernel

/-! ## A deep line -/

/-- An object with arrays in each other. -/
def nestedLine (depth : Nat) : Text :=
  ['\x7b', '"', 'a', '"', ':'] ++ List.replicate depth '[' ++ List.replicate depth ']' ++ ['\x7d']

theorem isLine_nestedLine (depth : Nat) : Encoding.IsLine (nestedLine depth) := by
  have hmarks : ∀ c ∈ nestedLine depth, c ≠ '\n' ∧ c ≠ '\r' := by
    rw [nestedLine, List.forall_mem_append, List.forall_mem_append, List.forall_mem_append]
    refine ⟨⟨⟨by simp, ?_⟩, ?_⟩, by simp⟩
    · intro c hc
      rw [List.eq_of_mem_replicate hc]
      decide
    · intro c hc
      rw [List.eq_of_mem_replicate hc]
      decide
  exact ⟨fun hmem => (hmarks _ hmem).1 rfl, fun hmem => (hmarks _ hmem).2 rfl⟩

/-- A pattern for a letter in groups in each other. -/
def nestedPattern (depth : Nat) : Text :=
  '/' :: List.replicate depth '(' ++ ['b'] ++ List.replicate depth ')' ++ ['/']

/-- A line that matches according to the report on it is too deep for a search, which fails; and a
search passes over a line that matches a pattern whose groups are too deep for the search. -/
theorem answer_of_nestedLine :
    (Report.ofLine .direct [] (nestedLine 981) none).map Report.isMatch = .ok true ∧
      answer (.withFile (Store.bytesOfLines .lineFeed [nestedLine 981])) hardLimit
        ⟨['a'], [], none, none, none, true⟩ = .error (.scan (.line .tooDeep)) ∧
      (Report.ofLine .direct (nestedPattern 487) ['b'] none).map Report.isMatch = .ok true ∧
      (answer (.withFile (Store.bytesOfLines .lineFeed [['b']])) hardLimit
        ⟨['a'], nestedPattern 487, none, none, none, true⟩).map Answer.entries = .ok [] := by
  have hdeep : Record.ofLine .inLoop (nestedLine 981) none none = .error .tooDeep := by
    decide +kernel
  have hrun := run_eq_error
    (Host.hasPlainFile_withFile (Store.bytesOfLines .lineFeed [nestedLine 981]))
    (List.forall_mem_singleton.mpr (isLine_nestedLine 981)) (by decide) hdeep
    (show ∀ number ∈ (none : Option Int), 0 < number by decide) [] true
  refine ⟨by decide +kernel, ?_, by decide +kernel, by decide +kernel⟩
  rw [answer, hrun]
  rfl

end LogSieve.Search
