import LogSieve.Proofs.Record.Limits
import LogSieve.Proofs.Scan.PlainFile
import LogSieve.Proofs.Scan.Unlimited

/-!
# Lines that end a scan

A scan without a limit reads every line of its file, whatever it asks for.  So it has a
result if and only if every line of the file that is not blank has a record
(`exists_run_iff`): one line without a record hides all others.
-/

namespace LogSieve.Scan

variable {stack : Stack}

/-- The file of a scan can be read to its end, and has these lines. -/
def HasLines (host : Host) (scan : Scan) (lines : List Text) : Prop :=
  ∃ bytes codec, fileAt host (Store.Path.ofText scan.path) = .ok bytes ∧
    Encoding.Codec.ofName? scan.encoding = some codec ∧
    (Store.Contents.ofFile (Store.Path.ofText scan.path).name bytes).lines codec
      scan.onMalformed = (lines, none)

/-- Every line that is not blank has a record. -/
def AllReadable (stack : Stack) (lines : List Text) : Prop :=
  ∀ raw ∈ lines, Text.allBlank raw = false → ∀ fault, ¬ Record.FailsBy stack raw fault

theorem allReadable_cons {line : Text} {rest : List Text} :
    AllReadable stack (line :: rest) ↔
      (Text.allBlank line = false → ∀ fault, ¬ Record.FailsBy stack line fault) ∧
        AllReadable stack rest :=
  List.forall_mem_cons

theorem exists_recordsFrom_iff {number : Nat} {lines : List Text} :
    (∃ records, recordsFrom stack number lines = .ok records) ↔ AllReadable stack lines := by
  induction lines generalizing number with
  | nil => exact iff_of_true ⟨[], rfl⟩ fun _ h => nomatch h
  | cons line rest ih =>
      constructor
      · rintro ⟨records, hrecords⟩
        rcases recordsFrom_cons_eq_ok_iff.mp hrecords with
          ⟨hblank, hrest⟩ | ⟨-, record, others, hrecord, hrest, rfl⟩
        · refine allReadable_cons.mpr ⟨fun hnot => ?_, ih.mp ⟨records, hrest⟩⟩
          rw [hblank] at hnot
          cases hnot
        · exact allReadable_cons.mpr
            ⟨fun _ => Record.exists_ofLine_iff.mp ⟨record, hrecord⟩, ih.mp ⟨others, hrest⟩⟩
      · intro h
        obtain ⟨hline, hrest⟩ := allReadable_cons.mp h
        obtain ⟨others, hothers⟩ : ∃ others, recordsFrom stack (number + 1) rest = .ok others :=
          ih.mpr hrest
        cases hblank : Text.allBlank line with
        | true => exact ⟨others, recordsFrom_cons_eq_ok_iff.mpr (.inl ⟨hblank, hothers⟩)⟩
        | false =>
            obtain ⟨record, hrecord⟩ :
                ∃ record, Record.ofLine stack line (some (Int.ofNat number)) none = .ok record :=
              Record.exists_ofLine_iff.mpr (hline hblank)
            exact ⟨record :: others, recordsFrom_cons_eq_ok_iff.mpr
              (.inr ⟨hblank, record, others, hrecord, hothers, rfl⟩)⟩

theorem recordsOfFile_of_hasLines {host : Host} {scan : Scan} {lines : List Text}
    (h : HasLines host scan lines) :
    recordsOfFile host scan = (recordsFrom host.stack 1 lines).mapError .line := by
  obtain ⟨bytes, codec, hfile, hcodec, hread⟩ := h
  simp only [recordsOfFile, hfile, bind, Except.bind, hcodec, hread, recordsIn]
  cases recordsFrom host.stack 1 lines <;> rfl

/-- A scan of a whole file has a result if and only if every line can be read. -/
theorem exists_run_iff {host : Host} {scan : Scan} {lines : List Text}
    (hlines : HasLines host scan lines) (window : Window) :
    (∃ records, run host { scan with window := .ok window, limit := none } = .ok records) ↔
      AllReadable host.stack lines := by
  rw [run_eq_map_filter, recordsOfFile_of_hasLines hlines, ← exists_recordsFrom_iff]
  cases recordsFrom host.stack 1 lines with
  | error fault => exact iff_of_false (fun ⟨_, h⟩ => nomatch h) (fun ⟨_, h⟩ => nomatch h)
  | ok records => exact iff_of_true ⟨_, rfl⟩ ⟨records, rfl⟩

/-- When a line has a content, what the content is of a line without an object, and when a scan of a
whole file has a result. -/
theorem lines_are_read {host : Host} {scan : Scan} {lines : List Text}
    (hlines : HasLines host scan lines) (window : Window) (stack : Stack) (raw : Text) :
    ((∃ content, Content.ofLine stack raw = .ok content) ↔
        ∀ fault, ¬ Content.Overruns stack raw fault) ∧
      (∀ content, Content.ofLine stack raw = .ok content → ¬ Content.HoldsObject stack raw →
        content = Pairs.content raw) ∧
      (Words.ofLine? raw = none → Pairs.content raw = ⟨raw, []⟩) ∧
      ((∃ records, run host { scan with window := .ok window, limit := none } = .ok records) ↔
        AllReadable host.stack lines) := by
  refine ⟨Content.exists_ofLine_iff, fun content hcontent hobject => ?_, fun hmarks => ?_, ?_⟩
  · exact Content.ofLine_of_not_holdsObject hobject hcontent
  · exact Pairs.content_of_unbalanced hmarks
  · exact exists_run_iff hlines window

/-- A host with a file of two lines, of which the first one has a stamp before the calendar. -/
def earlyHost : Host :=
  .withFile ("0001-01-01T00:00:00+01:00 a\nready\n".toList.flatMap Encoding.utf8Bytes)

/-- A line with an integer of one digit too many has no content, and the line with the early stamp
hides the one behind it, for which the scan asks. -/
theorem lines_are_read_of_earlyHost :
    (¬ ∃ content, Content.ofLine .direct ('\x7b' :: '"' :: 'a' :: '"' :: ':' ::
        (List.replicate 4301 '1' ++ ['\x7d'])) = .ok content) ∧
      ¬ ∃ records, run earlyHost (.ofFile ['a'] (Query.ofText "ready".toList) .always none) =
        .ok records := by
  have hlines : HasLines earlyHost (.ofFile ['a'] (Query.ofText "ready".toList) .always none)
      ["0001-01-01T00:00:00+01:00 a".toList, "ready".toList] :=
    ⟨_, .utf8, rfl, by decide, by decide +kernel⟩
  have hread := lines_are_read hlines Window.always .direct
  constructor
  · have hoverruns := Content.overruns_of_digits .direct
      (fun c hc => by rw [List.eq_of_mem_replicate hc]; decide)
      (show (List.replicate 4301 '1').head? ≠ some '0' by decide)
      (by rw [List.length_replicate]; decide)
    exact (hread _).1.not.mpr fun hall => hall _ hoverruns
  · have hrecord : Record.ofLine .inLoop "0001-01-01T00:00:00+01:00 a".toList none none =
        .error .instantOutOfRange := by
      decide +kernel
    have hfails := Record.ofLine_eq_error_iff.mp hrecord
    refine (hread []).2.2.2.not.mpr fun hall => ?_
    exact hall _ List.mem_cons_self (by decide) _ hfails

end LogSieve.Scan
