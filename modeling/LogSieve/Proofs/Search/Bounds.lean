import LogSieve.Proofs.Scan.Limited
import LogSieve.Proofs.Scan.PlainFile
import LogSieve.Proofs.Window
import LogSieve.Search

/-!
# What a search prints bounds other searches

Someone who has found an entry may ask for the entries from its time on, or for those
before, with the time as it is printed on the entry.
-/

namespace LogSieve.Search

open Calendar (Instant)

/-- A search whose bounds are missing or empty. -/
structure IsUnbounded (search : Search) : Prop where
  since : search.since.getD [] = []
  till : search.till.getD [] = []

/-- The number of records that a search finds at most. -/
def room (hardLimit : Int) (search : Search) : Int :=
  min (search.limit.getD defaultLimit) hardLimit

/-- The scan of the whole file of a search. -/
def wholeFile (search : Search) : Scan := .ofFile search.path (.ofText search.query) .always none

/-- The scan that a search makes in a window. -/
def scanIn (hardLimit : Int) (window : Window) (search : Search) : Scan :=
  { search.wholeFile with window := .ok window, limit := some (search.room hardLimit) }

theorem boundOf_of_isEmpty (name : Text) {text : Option Text} (h : text.getD [] = []) :
    boundOf name text = .ok none := by
  cases text with
  | none => rfl
  | some text =>
      obtain rfl : text = [] := h
      rfl

theorem boundOf_iso (name : Text) (instant : Instant) :
    boundOf name (some instant.iso) = .ok (some instant) := by
  have hread := Window.bound_iso instant
  cases htext : instant.iso with
  | nil =>
      rw [htext] at hread
      cases hread
  | cons c rest =>
      rw [htext] at hread
      simp only [boundOf, hread]

section

variable {host : Host} {hardLimit : Int} {search : Search} {found : List Record}

theorem run_eq {since till : Option Instant} {window : Window}
    (hsince : boundOf "since".toList search.since = .ok since)
    (htill : boundOf "until".toList search.till = .ok till)
    (hwindow : Window.ofBounds since till = .ok window)
    (hlimit : 0 < search.limit.getD defaultLimit) :
    run host hardLimit search =
      (Scan.run host (search.scanIn hardLimit window)).mapError .scan := by
  have hpositive : ¬ search.limit.getD defaultLimit ≤ 0 := by omega
  rw [run, if_neg hpositive, hsince, htill]
  simp only [bind, Except.bind, hwindow]
  rfl

/-- What is behind the answer of a search without a window. -/
theorem scan_of_run (hunbounded : search.IsUnbounded) (h : run host hardLimit search = .ok found) :
    0 < search.limit.getD defaultLimit ∧ 0 < search.room hardLimit ∧
      Scan.run host (search.scanIn hardLimit .always) = .ok found := by
  have hlimit : 0 < search.limit.getD defaultLimit := by
    by_contra hnot
    rw [run, if_pos (by omega)] at h
    cases h
  rw [run_eq (boundOf_of_isEmpty _ hunbounded.since) (boundOf_of_isEmpty _ hunbounded.till) rfl
    hlimit] at h
  have hscan : Scan.run host (search.scanIn hardLimit .always) = .ok found :=
    ok_of_mapError_eq_ok h
  refine ⟨hlimit, ?_, hscan⟩
  by_contra hnot
  have hroom : (search.scanIn hardLimit .always).limit.any (· ≤ 0) = true := by
    simp only [scanIn, Option.any_some, decide_eq_true_eq]
    omega
  rw [Scan.run, if_pos hroom] at hscan
  cases hscan

/-- The search from an instant on. -/
theorem run_since (hunbounded : search.IsUnbounded) (hlimit : 0 < search.limit.getD defaultLimit)
    (host : Host) (hardLimit : Int) (instant : Instant) :
    run host hardLimit { search with since := some instant.iso } =
      (Scan.run host (search.scanIn hardLimit ⟨some instant, none⟩)).mapError .scan :=
  run_eq (boundOf_iso _ instant) (boundOf_of_isEmpty _ hunbounded.till) rfl hlimit

/-- The search before an instant. -/
theorem run_till (hunbounded : search.IsUnbounded) (hlimit : 0 < search.limit.getD defaultLimit)
    (host : Host) (hardLimit : Int) (instant : Instant) :
    run host hardLimit { search with till := some instant.iso } =
      (Scan.run host (search.scanIn hardLimit ⟨none, some instant⟩)).mapError .scan :=
  run_eq (boundOf_of_isEmpty _ hunbounded.since) (boundOf_iso _ instant) rfl hlimit

/-- A search with one bound more fails only where a scan of the whole file does, and only if the
first search stopped at its limit. -/
theorem fault_of_narrower (hroom : 0 < search.room hardLimit)
    (hfound : Scan.run host (search.scanIn hardLimit .always) = .ok found) {narrow : Window}
    {fault : SearchFault}
    (hfault : (Scan.run host (search.scanIn hardLimit narrow)).mapError .scan = .error fault) :
    (found.length : Int) = search.room hardLimit ∧
      ∃ behind, fault = .scan behind ∧ Scan.run host search.wholeFile = .error behind := by
  obtain ⟨behind, hbehind, rfl⟩ := exists_of_mapError_eq_error hfault
  obtain ⟨hfull, hfile⟩ := Scan.fault_of_run_eq_error hroom hfound hbehind
  exact ⟨by omega, behind, rfl, hfile .always⟩

end

/-- How the searches with one bound more, an instant as it is printed, stand to a search without a
window that has found a record. -/
structure BoundsAt (host : Host) (hardLimit : Int) (search : Search) (found : List Record)
    (record : Record) (instant : Instant) : Prop where
  /-- The record is found from the instant on. -/
  since : ∀ later, run host hardLimit { search with since := some instant.iso } = .ok later →
    record ∈ later
  /-- The record is not found before the instant. -/
  till : ∀ earlier, run host hardLimit { search with till := some instant.iso } = .ok earlier →
    record ∉ earlier
  /-- The searches come to an end unless the first one stopped at its limit and the file cannot be
  read to its end. -/
  fault : ∀ narrower ∈ [{ search with since := some instant.iso },
      { search with till := some instant.iso }],
    ∀ fault, run host hardLimit narrower = .error fault →
      (found.length : Int) = search.room hardLimit ∧
        ∃ behind, fault = .scan behind ∧ Scan.run host search.wholeFile = .error behind

/-- An instant that is printed bounds a window at this very instant, so the time of an entry bounds
other searches at the entry. -/
theorem run_of_printed_bound :
    (∀ instant : Instant, Window.bound instant.iso = .ok instant) ∧
      ∀ (host : Host) (hardLimit : Int) (search : Search) (found : List Record),
        search.IsUnbounded → run host hardLimit search = .ok found →
        ∀ record ∈ found, ∀ instant, record.timestamp = some instant →
          BoundsAt host hardLimit search found record instant := by
  refine ⟨Window.bound_iso, ?_⟩
  intro host hardLimit search found hunbounded h record hrecord instant hinstant
  obtain ⟨hlimit, hroom, hfound⟩ := scan_of_run hunbounded h
  have hsince := run_since hunbounded hlimit host hardLimit instant
  have htill := run_till hunbounded hlimit host hardLimit instant
  constructor
  case since =>
    -- the narrower window takes other records away, so the record only moves up
    intro later hlater
    rw [hsince] at hlater
    refine Scan.mem_run_of_narrower hroom (fun other _ => Window.admits_always other) hfound
      (ok_of_mapError_eq_ok hlater) hrecord ?_
    exact (Window.admits_since hinstant).mpr (Nat.le_refl _)
  case till =>
    -- the window ends before the instant
    intro earlier hearlier hmem
    rw [htill] at hearlier
    have hadmits := Scan.admits_of_mem_run hroom (ok_of_mapError_eq_ok hearlier) hmem
    exact Nat.lt_irrefl _ ((Window.admits_till hinstant).mp hadmits)
  case fault =>
    intro narrower hnarrower fault hfault
    rcases List.mem_cons.mp hnarrower with rfl | hnarrower
    · exact fault_of_narrower hroom hfound (hsince ▸ hfault)
    · obtain rfl := List.mem_singleton.mp hnarrower
      exact fault_of_narrower hroom hfound (htill ▸ hfault)

/-- Two lines, a second apart. -/
def twoLines : Encoding.Bytes :=
  Store.bytesOfLines .lineFeed ["2025-01-01T00:00:00Z a".toList, "2025-01-01T00:00:01Z b".toList]

/-- The record of the first line. -/
def firstRecord : Record :=
  ⟨"2025-01-01T00:00:00Z a".toList, none, [], some ⟨63871286400000000, by decide⟩, some 1,
    some "2025-01-01T00:00:00Z a".toList⟩

/-- The instant of the second line. -/
def secondInstant : Instant := ⟨63871286401000000, by decide⟩

/-- The record of the second line. -/
def secondRecord : Record :=
  ⟨"2025-01-01T00:00:01Z b".toList, none, [], some secondInstant, some 2,
    some "2025-01-01T00:00:01Z b".toList⟩

theorem secondInstant_iso : secondInstant.iso = "2025-01-01T00:00:01+00:00".toList := by
  decide +kernel

/-- The time of the second entry bounds other searches at this entry. -/
theorem run_of_printed_bound_of_twoLines :
    Window.bound "2025-01-01T00:00:01+00:00".toList = .ok secondInstant ∧
      BoundsAt (.withFile twoLines) hardLimit ⟨['a'], [], none, some [], some 2, true⟩
        [firstRecord, secondRecord] secondRecord secondInstant := by
  have hfound : run (.withFile twoLines) hardLimit ⟨['a'], [], none, some [], some 2, true⟩ =
      .ok [firstRecord, secondRecord] := by
    decide +kernel
  obtain ⟨hbound, hsearch⟩ := run_of_printed_bound
  exact ⟨secondInstant_iso ▸ hbound secondInstant,
    hsearch _ _ _ _ ⟨rfl, rfl⟩ hfound _ (by simp) _ rfl⟩

/-- The two lines in a compressed file that ends behind them, where it should go on. -/
def truncatedFile : Encoding.Bytes :=
  [0x1F, 0x8B, 8, 0, 0, 0, 0, 0, 0, 0xFF, 0, 46, 0, 0xD1, 0xFF] ++ twoLines

/-- A host with the truncated file. -/
def truncatedHost : Host := ⟨⟨[(["a.gz".toList], .file truncatedFile)]⟩, [], .inLoop⟩

/-- The search that stops at its limit of two comes to an end, and the one from the second entry on
does not: there is room for another entry, and the file cannot be read further. -/
theorem run_of_truncatedFile :
    run truncatedHost hardLimit ⟨"a.gz".toList, [], none, none, some 2, true⟩ =
        .ok [firstRecord, secondRecord] ∧
      secondRecord.timestamp = some secondInstant ∧
      run truncatedHost hardLimit ⟨"a.gz".toList, [], some secondInstant.iso, none, some 2, true⟩ =
        .error (.scan (.reading .truncated)) := by
  refine ⟨?_, rfl, ?_⟩
  · decide +kernel
  · rw [secondInstant_iso]
    decide +kernel

end LogSieve.Search
