import LogSieve.Proofs.Calendar.Compact
import LogSieve.Proofs.Record.Limits
import LogSieve.Proofs.Scan.PlainFile
import LogSieve.Proofs.Scan.Unlimited

/-!
# Seconds since an epoch

Some programs write the time of a line as a number, counted from an epoch.  Such a number
is no stamp, so the line has no instant and belongs to every window; but a number whose
digits happen to write a date and a time is read as these (`epoch_is_untimed_iff`).
-/

namespace LogSieve

variable {stack : Stack}

open Calendar (Instant Stamp)

namespace Record

/-- The instant of a line is what this text says: the text is in a field for it, and no stamp stands
at the start of the line. -/
structure IsTimedBy (raw : Text) (fields : Fields) (text : Text) : Prop where
  field : fields.firstNonempty? timeKeys = some text
  start : ∀ stamp, leadingStamp? (Text.stripStart raw) = some stamp →
    Instant.ofText? stamp = .ok none

theorem IsTimedBy.inferredInstant?_eq {raw : Text} {fields : Fields} {text : Text}
    (h : IsTimedBy raw fields text) : inferredInstant? raw fields = instantOf? (some text) := by
  rw [inferredInstant?, h.field]
  cases htext : instantOf? (some text) with
  | error fault => rfl
  | ok instant =>
      cases instant with
      | none => exact instantOf?_eq_ok_none_iff.mpr h.start
      | some instant => rfl

theorem IsTimedBy.timestamp_eq_none_iff {raw text : Text} {number : Option Int}
    {level : Option Text} {record : Record} (hrecord : ofLine stack raw number level = .ok record)
    (h : IsTimedBy raw record.fields text) :
    record.timestamp = none ↔ Instant.ofText? text = .ok none := by
  have hinstant := inferredInstant?_of_ofLine hrecord
  rw [h.inferredInstant?_eq] at hinstant
  constructor
  · intro hnone
    rw [hnone] at hinstant
    exact instantOf?_eq_ok_none_iff.mp hinstant text rfl
  · intro hnone
    have hread : instantOf? (some text) = .ok none :=
      instantOf?_eq_ok_none_iff.mpr fun _ heq => Option.some.inj heq ▸ hnone
    rw [hread] at hinstant
    exact (Except.ok.inj hinstant).symm

end Record

/-- Only a record without an instant is in every window. -/
theorem Window.forall_admits_iff {record : Record} :
    (∀ window : Window, window.isOrdered = true → window.admits record = true) ↔
      record.timestamp = none := by
  constructor
  · intro h
    cases hinstant : record.timestamp with
    | none => rfl
    | some instant =>
        -- the window that ends where the record is
        have hadmits := h ⟨none, some instant⟩ rfl
        simp only [admits, contains, hinstant, Option.all_some, Option.all_none, Bool.true_and,
          decide_eq_true_eq] at hadmits
        exact absurd hadmits (Nat.lt_irrefl instant.micros)
  · intro hnone window _
    rw [admits, hnone]
    rfl

namespace Scan

theorem mem_run_in_windows_iff {host : Host} {scan : Scan} {all : List Record}
    (hall : run host { scan with window := .ok .always, limit := none } = .ok all)
    {record : Record} (hrecord : record ∈ all) :
    (∀ window : Window, window.isOrdered = true →
        ∃ found, run host { scan with window := .ok window, limit := none } = .ok found ∧
          record ∈ found) ↔
      record.timestamp = none := by
  rw [← Window.forall_admits_iff]
  refine forall₂_congr fun window _ => ?_
  rw [run_in_window hall window]
  constructor
  · rintro ⟨_, ⟨⟩, hmem⟩
    exact (List.mem_filter.mp hmem).2
  · intro hadmits
    exact ⟨_, rfl, List.mem_filter.mpr ⟨hrecord, hadmits⟩⟩

/-- A number of nine digits or more is no stamp, leaves its line without an instant, and the line in
every window, unless its digits write a moment. -/
theorem epoch_is_untimed_iff {epoch : Text} (hlength : 9 ≤ epoch.length)
    (hdigits : ∀ c ∈ epoch, Text.isAsciiDigit c = true) :
    (Instant.ofText? epoch = .ok none ↔ ¬ ∃ moment, Stamp.WritesMoment epoch moment) ∧
      (∀ stack raw number level record, Record.ofLine stack raw number level = .ok record →
        Record.IsTimedBy raw record.fields epoch →
          (record.timestamp = none ↔ ¬ ∃ moment, Stamp.WritesMoment epoch moment)) ∧
      ∀ (host : Host) (scan : Scan) all,
        run host { scan with window := .ok .always, limit := none } = .ok all →
          ∀ record ∈ all, Record.IsTimedBy record.raw record.fields epoch →
            ((∀ window : Window, window.isOrdered = true →
                ∃ found, run host { scan with window := .ok window, limit := none } = .ok found ∧
                  record ∈ found) ↔
              ¬ ∃ moment, Stamp.WritesMoment epoch moment) := by
  have hread := Instant.ofText?_eq_ok_none_iff hlength hdigits
  refine ⟨hread, ?_, ?_⟩
  · intro stack raw number level record hrecord htimed
    rw [htimed.timestamp_eq_none_iff hrecord, hread]
  · intro host scan all hall record hmem htimed
    rw [mem_run_in_windows_iff hall hmem,
      htimed.timestamp_eq_none_iff (ofLine_of_mem_run hall hmem), hread]

/-- A host with a file of two lines, which give one time in seconds and in milliseconds. -/
def epochHost : Host :=
  .withFile ("ts=1712030912 a\nts=1712030912345 b\n".toList.flatMap Encoding.utf8Bytes)

def secondsRecord : Record :=
  ⟨"ts=1712030912 a".toList, none, [("ts".toList, "1712030912".toList)], none, some 1,
    some "ts=1712030912 a".toList⟩

/-- Thirteen digits are the ninth of March 1712, a digit that is passed over, and a quarter to
midnight. -/
def millisRecord : Record :=
  ⟨"ts=1712030912345 b".toList, none, [("ts".toList, "1712030912345".toList)],
    some ⟨(Calendar.Moment.mk ⟨1712, 3, 9⟩ 23 45 0 0).micros, by decide +kernel⟩, some 2,
    some "ts=1712030912345 b".toList⟩

/-- The time in seconds is in every window, that in milliseconds is not. -/
theorem epoch_is_untimed_of_epochHost :
    (∀ window : Window, window.isOrdered = true →
        ∃ found, run epochHost (.ofFile ['a'] ⟨[], []⟩ window none) = .ok found ∧
          secondsRecord ∈ found) ∧
      ¬ ∀ window : Window, window.isOrdered = true →
        ∃ found, run epochHost (.ofFile ['a'] ⟨[], []⟩ window none) = .ok found ∧
          millisRecord ∈ found := by
  have hall : run epochHost (.ofFile ['a'] ⟨[], []⟩ .always none) =
      .ok [secondsRecord, millisRecord] := by
    decide +kernel
  have hseconds := epoch_is_untimed_iff (show 9 ≤ "1712030912".toList.length by decide)
    (List.all_eq_true.mp (by decide))
  have hmillis := epoch_is_untimed_iff (show 9 ≤ "1712030912345".toList.length by decide)
    (List.all_eq_true.mp (by decide))
  constructor
  · have hin := hseconds.2.2 epochHost (.ofFile ['a'] ⟨[], []⟩ .always none) _ hall
      secondsRecord (by simp) ⟨rfl, by decide⟩
    exact hin.mpr (hseconds.1.mp (by decide +kernel))
  · have hin := hmillis.2.2 epochHost (.ofFile ['a'] ⟨[], []⟩ .always none) _ hall
      millisRecord (by simp) ⟨rfl, by decide⟩
    exact hin.not.mpr fun hnone =>
      hnone ⟨_, .intro ⟨1712, 3, 9⟩ '1' (.minutes 23 45) (by decide)⟩

end Scan

end LogSieve
