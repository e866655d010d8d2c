import LogSieve.Proofs.Scan.PlainFile
import LogSieve.Proofs.Scan.Unlimited

/-!
# Appending to a file

A log grows at its end.  If the bytes before the new ones are complete lines, the
lines of the grown file are the old ones and then the new ones, and what a scan finds
in it is what it finds in both parts, the new records under numbers that go on where
the old lines end (`run_append`).

Numbers are the only thing that a record has from its place in the file, and neither
the window nor the query asks for them.
-/

namespace LogSieve

variable {stack : Stack}

open Encoding (Bytes)

/-- The record as it is when `count` lines more stand before its own. -/
def Record.shifted (count : Nat) (record : Record) : Record :=
  { record with lineNumber := record.lineNumber.map (· + Int.ofNat count) }

theorem Record.ofLine_shifted {raw : Text} {number : Nat} {level : Option Text} {record : Record}
    (h : Record.ofLine stack raw (some (Int.ofNat number)) level = .ok record) (count : Nat) :
    Record.ofLine stack raw (some (Int.ofNat (number + count))) level =
      .ok (record.shifted count) := by
  rw [Record.ofLine_eq_map] at h
  obtain ⟨unnumbered, hread, rfl⟩ := exists_of_map_eq_ok h
  rw [Record.ofLine_eq_map, hread]
  rfl

namespace Scan

theorem asks_shifted (window : Window) (query : Query) (count : Nat) (record : Record) :
    asks stack window query (record.shifted count) = asks stack window query record := by
  rw [asks, asks, Record.shifted, Query.holds_lineNumber]
  rfl

theorem filter_asks_map_shifted (window : Window) (query : Query) (count : Nat)
    (records : List Record) :
    (records.map (Record.shifted count)).filter (asks stack window query) =
      (records.filter (asks stack window query)).map (Record.shifted count) := by
  have hasks : asks stack window query ∘ Record.shifted count = asks stack window query :=
    funext (asks_shifted window query count)
  rw [List.filter_map, hasks]

theorem recordsFrom_shifted {number : Nat} {lines : List Text} {records : List Record}
    (h : recordsFrom stack number lines = .ok records) (count : Nat) :
    recordsFrom stack (number + count) lines = .ok (records.map (Record.shifted count)) := by
  induction lines generalizing number records with
  | nil =>
      obtain rfl : [] = records := Except.ok.inj h
      rfl
  | cons line rest ih =>
      rw [recordsFrom_cons_eq_ok_iff, Nat.add_right_comm]
      rcases recordsFrom_cons_eq_ok_iff.mp h with
        ⟨hblank, hrest⟩ | ⟨hblank, record, others, hrecord, hrest, rfl⟩
      · exact .inl ⟨hblank, ih hrest⟩
      · exact .inr ⟨hblank, record.shifted count, others.map (Record.shifted count),
          Record.ofLine_shifted hrecord count, ih hrest, rfl⟩

/-- What a scan of a plain file finds are the records of its lines that are asked for. -/
theorem run_plainFile_eq_ok_iff {host : Host} {path : Text} {bytes : Bytes}
    (h : host.HasPlainFile path bytes) {query : Query} {window : Window} {records : List Record} :
    run host (.ofFile path query window none) = .ok records ↔
      ∃ all, recordsFrom host.stack 1 (Encoding.linesOfBytes .replace bytes) = .ok all ∧
        records = all.filter (asks host.stack window query) := by
  rw [run_plainFile h query window (by simp), Option.map_none, recordsOf_eq_map_filter, recordsIn]
  cases recordsFrom host.stack 1 (Encoding.linesOfBytes .replace bytes) with
  | error fault => simp [Except.map]
  | ok all => simp [Except.map, eq_comm]

/-- If a file holds complete lines and then something else, and scans of both parts come to an end,
a scan of the file finds what the first one finds and then, further down, what the second finds.
All of them read their lines with the same stack. -/
theorem run_append {host₁ host₂ host : Host} {path₁ path₂ path : Text} {first second : Bytes}
    (hfirst : host₁.HasPlainFile path₁ first) (hsecond : host₂.HasPlainFile path₂ second)
    (hboth : host.HasPlainFile path (first ++ second))
    (hstack₁ : host₁.stack = host.stack) (hstack₂ : host₂.stack = host.stack)
    (hend : first = [] ∨ first.getLast? = some Encoding.feedByte) {query : Query} {window : Window}
    {earlier later : List Record}
    (hearlier : run host₁ (.ofFile path₁ query window none) = .ok earlier)
    (hlater : run host₂ (.ofFile path₂ query window none) = .ok later) :
    run host (.ofFile path query window none) = .ok
      (earlier ++ later.map (Record.shifted
        ((Store.Contents.ofBytes first).lines .utf8 .replace).1.length)) := by
  have hlines := Store.lines_ofBytes (show Encoding.OnMalformed.replace ≠ .refuse by decide) first
  obtain ⟨all₁, hall₁, rfl⟩ := (run_plainFile_eq_ok_iff hfirst).mp hearlier
  obtain ⟨all₂, hall₂, rfl⟩ := (run_plainFile_eq_ok_iff hsecond).mp hlater
  rw [hstack₁] at hall₁ ⊢
  rw [hstack₂] at hall₂ ⊢
  have hshifted := recordsFrom_shifted hall₂ (Encoding.linesOfBytes .replace first).length
  have hall := recordsFrom_append hall₁ hshifted
  rw [← Encoding.linesOfBytes_append hend] at hall
  refine (run_plainFile_eq_ok_iff hboth).mpr ⟨_, hall, ?_⟩
  rw [hlines, List.filter_append, filter_asks_map_shifted]

/-- A character that is cut off by the end of a line stays so, and its last byte behind the line feed
is malformed on its own; blank lines count. -/
theorem run_append_of_cutCharacter :
    run (.withFile ([0x61, 0x0D, 0x0A, 0x0A, 0xE2, 0x82, 0x0A] ++ [0x82, 0x62]))
        (.ofFile ['a'] ⟨[], []⟩ .always none) =
      .ok [⟨['a'], none, [], none, some 1, some ['a']⟩,
        ⟨['\uFFFD'], none, [], none, some 3, some ['\uFFFD']⟩,
        ⟨['\uFFFD', 'b'], none, [], none, some 4, some ['\uFFFD', 'b']⟩] := by
  have hearlier : run (.withFile [0x61, 0x0D, 0x0A, 0x0A, 0xE2, 0x82, 0x0A])
      (.ofFile ['a'] ⟨[], []⟩ .always none) =
        .ok [⟨['a'], none, [], none, some 1, some ['a']⟩,
          ⟨['\uFFFD'], none, [], none, some 3, some ['\uFFFD']⟩] := by
    decide +kernel
  have hlater : run (.withFile [0x82, 0x62]) (.ofFile ['a'] ⟨[], []⟩ .always none) =
      .ok [⟨['\uFFFD', 'b'], none, [], none, some 1, some ['\uFFFD', 'b']⟩] := by
    decide +kernel
  exact run_append (Host.hasPlainFile_withFile _) (Host.hasPlainFile_withFile _)
    (Host.hasPlainFile_withFile _) rfl rfl (.inr rfl) hearlier hlater

end Scan

end LogSieve
