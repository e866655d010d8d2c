import LogSieve.Proofs.Scan.PlainFile
import LogSieve.Proofs.Scan.Unlimited
import Mathlib.Data.List.Nodup

/-!
# Windows side by side

Two windows that meet at an instant part the records of the window that they make
up: what stands between the two ends is found in exactly one half, a record at the
very instant where they meet in the later one, and a record without an instant in
both (`run_between_splits`).

A window only chooses from what is in the file (`run_eq_map_filter`), so all three
scans choose from the same records.  The lists that the two halves find are put
together again by merging: the records of a file come in the order of their lines,
and a list in strict order is the merge of the part that has a property and the part
that has it not (`merge_filter`).
-/

namespace LogSieve

open Calendar (Instant Stamp)

/-! ## Merging -/

/-- A list in strict order is the merge of the two parts that a property leaves. -/
theorem merge_filter {α : Type} {before : α → α → Bool} {list : List α}
    (h : list.Pairwise fun first second =>
      before first second = true ∧ before second first = false) (p : α → Bool) :
    List.merge (list.filter p) (list.filter fun a => !p a) before = list := by
  induction list with
  | nil => simp
  | cons first rest ih =>
      obtain ⟨hfirst, hrest⟩ := List.pairwise_cons.mp h
      have hmerge := ih hrest
      cases hp : p first with
      | true =>
          -- the first one is alone in front of what it is merged with
          rw [List.filter_cons_of_pos hp, List.filter_cons_of_neg (by simp [hp])]
          cases hother : rest.filter (fun a => !p a) with
          | nil =>
              rw [hother, List.merge_right] at hmerge
              rw [List.merge_right, hmerge]
          | cons second more =>
              have hsecond : second ∈ rest :=
                List.mem_of_mem_filter (hother ▸ List.mem_cons_self)
              rw [List.cons_merge_cons_pos _ _ _ (hfirst second hsecond).1, ← hother, hmerge]
      | false =>
          rw [List.filter_cons_of_neg (by simp [hp]), List.filter_cons_of_pos (by simp [hp])]
          cases hother : rest.filter p with
          | nil =>
              rw [hother, List.nil_merge] at hmerge
              rw [List.nil_merge, hmerge]
          | cons second more =>
              have hsecond : second ∈ rest :=
                List.mem_of_mem_filter (hother ▸ List.mem_cons_self)
              have hnot : ¬ before second first = true := by
                rw [(hfirst second hsecond).2]
                exact Bool.false_ne_true
              rw [List.cons_merge_cons_neg _ _ _ hnot, ← hother, hmerge]

/-! ## Records in windows -/

/-- Whether a record has an instant. -/
def Record.isTimed (record : Record) : Bool := record.timestamp.isSome

/-- Whether a record has an instant before the given one. -/
def Record.isBefore (bound : Instant) (record : Record) : Bool :=
  record.timestamp.any fun instant => instant < bound

theorem Window.ofStamps_of_lt {defaultOffset : Int} {since till : Stamp} {first last : Instant}
    (hsince : since.toInstant? defaultOffset = some first)
    (htill : till.toInstant? defaultOffset = some last) (h : first < last) :
    Window.ofStamps defaultOffset (some since) (some till) = .ok ⟨some first, some last⟩ := by
  simp [Window.ofStamps, Window.ofBounds, Window.isOrdered, hsince, htill, h, bind, Except.bind]

theorem Window.admits_of_isTimed_eq_false {record : Record} (h : record.isTimed = false)
    (window : Window) : window.admits record = true := by
  have hnone : record.timestamp = none := by simpa [Record.isTimed] using h
  rw [Window.admits, hnone]
  rfl

theorem Window.admits_iff {first last instant : Instant} {record : Record}
    (h : record.timestamp = some instant) :
    (Window.mk (some first) (some last)).admits record = true ↔
      first ≤ instant ∧ instant < last := by
  simp [Window.admits, Window.contains, h]

/-- The earlier half of a window keeps what is before the instant where it ends. -/
theorem Window.admits_earlier (first : Instant) {middle last : Instant} (h : middle < last)
    {record : Record} (htimed : record.isTimed = true) :
    (Window.mk (some first) (some middle)).admits record =
      ((Window.mk (some first) (some last)).admits record && record.isBefore middle) := by
  obtain ⟨instant, hinstant⟩ := Option.isSome_iff_exists.mp htimed
  have hbefore : record.isBefore middle = true ↔ instant < middle := by
    simp [Record.isBefore, hinstant]
  rw [Bool.eq_iff_iff, Bool.and_eq_true, admits_iff hinstant, admits_iff hinstant, hbefore]
  change first.micros ≤ instant.micros ∧ instant.micros < middle.micros ↔
    (first.micros ≤ instant.micros ∧ instant.micros < last.micros) ∧
      instant.micros < middle.micros
  have : middle.micros < last.micros := h
  omega

/-- The later half of a window keeps the rest. -/
theorem Window.admits_later {first middle : Instant} (last : Instant) (h : first < middle)
    {record : Record} (htimed : record.isTimed = true) :
    (Window.mk (some middle) (some last)).admits record =
      ((Window.mk (some first) (some last)).admits record && !record.isBefore middle) := by
  obtain ⟨instant, hinstant⟩ := Option.isSome_iff_exists.mp htimed
  have hbefore : (!record.isBefore middle) = true ↔ ¬ instant < middle := by
    simp [Record.isBefore, hinstant]
  rw [Bool.eq_iff_iff, Bool.and_eq_true, admits_iff hinstant, admits_iff hinstant, hbefore]
  change middle.micros ≤ instant.micros ∧ instant.micros < last.micros ↔
    (first.micros ≤ instant.micros ∧ instant.micros < last.micros) ∧
      ¬ instant.micros < middle.micros
  have : first.micros < middle.micros := h
  omega

namespace Scan

variable {stack : Stack}

/-- A narrower window finds, of the records with an instant, those of the wider one that have what
sets the narrower one apart. -/
theorem filter_isTimed_filter_asks {narrow wide : Window} {p : Record → Bool}
    (h : ∀ record : Record, record.isTimed = true →
      narrow.admits record = (wide.admits record && p record))
    (stack : Stack) (query : Query) (records : List Record) :
    (records.filter (asks stack narrow query)).filter Record.isTimed =
      ((records.filter (asks stack wide query)).filter Record.isTimed).filter p := by
  rw [List.filter_filter, List.filter_filter, List.filter_filter]
  refine List.filter_congr fun record _ => ?_
  cases htimed : record.isTimed with
  | false => simp
  | true =>
      rw [asks, asks, h record htimed, Bool.true_and, Bool.and_true, Bool.and_right_comm,
        Bool.and_comm (p record)]

/-- All windows find the same records without an instant. -/
theorem filter_not_isTimed_filter_asks (window other : Window) (query : Query)
    (records : List Record) :
    ((records.filter (asks stack window query)).filter fun record => !record.isTimed) =
      (records.filter (asks stack other query)).filter fun record => !record.isTimed := by
  rw [List.filter_filter, List.filter_filter]
  refine List.filter_congr fun record _ => ?_
  cases htimed : record.isTimed with
  | true => rfl
  | false =>
      rw [asks, asks, Window.admits_of_isTimed_eq_false htimed,
        Window.admits_of_isTimed_eq_false htimed]

/-! ## Halves -/

/-- The scan for the records between two moments, without a limit. -/
def between (defaultOffset : Int) (since till : Stamp) (scan : Scan) : Scan :=
  { scan with window := Window.ofStamps defaultOffset (some since) (some till), limit := none }

/-- How what is found between two instants, `whole`, comes apart at a third one into what is found
before it and what is found from then on. -/
structure SplitsAt (middle : Instant) (whole earlier later : List Record) : Prop where
  /-- Merged by their places in the file, the records with an instant are all there. -/
  merged : List.merge (earlier.filter Record.isTimed) (later.filter Record.isTimed)
    Record.standsBefore = whole.filter Record.isTimed
  /-- No line with an instant is in both parts. -/
  disjoint : ((earlier.filter Record.isTimed).map Record.lineNumber).Disjoint
    ((later.filter Record.isTimed).map Record.lineNumber)
  /-- The instant itself belongs to the later part. -/
  mem_iff : ∀ record ∈ whole, ∀ instant, record.timestamp = some instant →
    (record ∈ earlier ↔ instant < middle) ∧ (record ∈ later ↔ middle ≤ instant)
  /-- The records without an instant are the same ones everywhere. -/
  untimed : (earlier.filter fun record => !record.isTimed) =
      (whole.filter fun record => !record.isTimed) ∧
    (later.filter fun record => !record.isTimed) = whole.filter fun record => !record.isTimed

/-- In order, two records of one line are one record. -/
theorem eq_of_lineNumber_eq {records : List Record} (h : Record.InOrder records)
    {first second : Record} (hfirst : first ∈ records) (hsecond : second ∈ records)
    (hnumber : first.lineNumber = second.lineNumber) : first = second := by
  have hnodup : (records.map Record.lineNumber).Nodup := by
    refine List.pairwise_map.mpr (h.imp fun {one other} hbefore hsame => ?_)
    rw [Record.standsBefore, hsame] at hbefore
    cases hother : other.lineNumber <;> simp [hother] at hbefore
  exact List.inj_on_of_nodup_map hnodup hfirst hsecond hnumber

theorem splitsAt_filter_asks {first middle last : Instant} (hfirst : first < middle)
    (hlast : middle < last) {records : List Record} (h : Record.InOrder records) (query : Query) :
    SplitsAt middle (records.filter (asks stack ⟨some first, some last⟩ query))
      (records.filter (asks stack ⟨some first, some middle⟩ query))
      (records.filter (asks stack ⟨some middle, some last⟩ query)) := by
  have hearlier := filter_isTimed_filter_asks
    (fun _ htimed => Window.admits_earlier first hlast htimed) stack query records
  have hlater := filter_isTimed_filter_asks
    (fun _ htimed => Window.admits_later last hfirst htimed) stack query records
  constructor
  case merged =>
    rw [hearlier, hlater]
    exact merge_filter ((h.filter _).filter _) _
  case disjoint =>
    rw [hearlier, hlater, List.disjoint_left]
    intro number hin hout
    obtain ⟨one, hone, rfl⟩ := List.mem_map.mp hin
    obtain ⟨other, hother, hnumber⟩ := List.mem_map.mp hout
    obtain ⟨hone, hbefore⟩ := List.mem_filter.mp hone
    obtain ⟨hother, hnotBefore⟩ := List.mem_filter.mp hother
    obtain rfl := eq_of_lineNumber_eq ((h.filter _).filter _) hother hone hnumber
    simp [hbefore] at hnotBefore
  case mem_iff =>
    intro record hwhole instant hinstant
    obtain ⟨hmem, hasks⟩ := List.mem_filter.mp hwhole
    obtain ⟨hadmits, hholds⟩ := Bool.and_eq_true_iff.mp hasks
    obtain ⟨hge, hlt⟩ := (Window.admits_iff hinstant).mp hadmits
    simp only [List.mem_filter, asks, Bool.and_eq_true, Window.admits_iff hinstant, hmem, hholds,
      hge, hlt, true_and, and_true, and_self]
  case untimed =>
    exact ⟨filter_not_isTimed_filter_asks _ _ query records,
      filter_not_isTimed_filter_asks _ _ query records⟩

/-- If a scan between two moments comes to an end, so do the scans of the two halves that a moment
between them leaves, and they have parted between them what the first one finds. -/
theorem run_between_splits {host : Host} {scan : Scan} {defaultOffset : Int}
    {since middle till : Stamp} {first instant last : Instant}
    (hsince : since.toInstant? defaultOffset = some first)
    (hmiddle : middle.toInstant? defaultOffset = some instant)
    (htill : till.toInstant? defaultOffset = some last)
    (hfirst : first < instant) (hlast : instant < last) {whole : List Record}
    (hwhole : run host (scan.between defaultOffset since till) = .ok whole) :
    ∃ earlier later, run host (scan.between defaultOffset since middle) = .ok earlier ∧
      run host (scan.between defaultOffset middle till) = .ok later ∧
      SplitsAt instant whole earlier later := by
  have hboth : first < last := Nat.lt_trans hfirst hlast
  unfold between at hwhole ⊢
  rw [Window.ofStamps_of_lt hsince htill hboth, run_eq_map_filter] at hwhole
  rw [Window.ofStamps_of_lt hsince hmiddle hfirst, run_eq_map_filter,
    Window.ofStamps_of_lt hmiddle htill hlast, run_eq_map_filter]
  obtain ⟨records, hrecords, rfl⟩ := exists_of_map_eq_ok hwhole
  obtain ⟨lines, hlines⟩ := exists_lines_of_recordsOfFile hrecords
  rw [hrecords]
  exact ⟨_, _, rfl, rfl,
    splitsAt_filter_asks hfirst hlast (inOrder_recordsFrom hlines) scan.query⟩

/-- A line at the first second of the calendar, a line without an instant and a line before both. -/
def threeLines : Encoding.Bytes :=
  Store.bytesOfLines .lineFeed
    ["0001-01-01T00:00:01Z b".toList, ['c'], "0001-01-01T00:00:00Z a".toList]

/-- The first line is at the very instant between the halves, which is given on another clock. -/
theorem run_between_splits_of_threeLines :
    ∃ earlier later,
      run (.withFile threeLines)
        (between 0 ⟨⟨⟨1, 1, 1⟩, 0, 0, 0, 0⟩, some 0⟩ ⟨⟨⟨1, 1, 1⟩, 1, 0, 1, 0⟩, some 3600000000⟩
          (.ofFile ['a'] ⟨[], []⟩ .always none)) = .ok earlier ∧
      run (.withFile threeLines)
        (between 0 ⟨⟨⟨1, 1, 1⟩, 1, 0, 1, 0⟩, some 3600000000⟩ ⟨⟨⟨1, 1, 1⟩, 0, 0, 2, 0⟩, none⟩
          (.ofFile ['a'] ⟨[], []⟩ .always none)) = .ok later ∧
      SplitsAt ⟨1000000, by decide⟩
        [⟨"0001-01-01T00:00:01Z b".toList, none, [], some ⟨1000000, by decide⟩, some 1,
            some "0001-01-01T00:00:01Z b".toList⟩,
          ⟨['c'], none, [], none, some 2, some ['c']⟩,
          ⟨"0001-01-01T00:00:00Z a".toList, none, [], some ⟨0, by decide⟩, some 3,
            some "0001-01-01T00:00:00Z a".toList⟩] earlier later := by
  have hwhole : run (.withFile threeLines)
      (between 0 ⟨⟨⟨1, 1, 1⟩, 0, 0, 0, 0⟩, some 0⟩ ⟨⟨⟨1, 1, 1⟩, 0, 0, 2, 0⟩, none⟩
        (.ofFile ['a'] ⟨[], []⟩ .always none)) =
      .ok [⟨"0001-01-01T00:00:01Z b".toList, none, [], some ⟨1000000, by decide⟩, some 1,
          some "0001-01-01T00:00:01Z b".toList⟩,
        ⟨['c'], none, [], none, some 2, some ['c']⟩,
        ⟨"0001-01-01T00:00:00Z a".toList, none, [], some ⟨0, by decide⟩, some 3,
          some "0001-01-01T00:00:00Z a".toList⟩] := by
    decide +kernel
  have hfirst : (⟨0, by decide⟩ : Instant) < ⟨1000000, by decide⟩ := by decide
  have hlast : (⟨1000000, by decide⟩ : Instant) < ⟨2000000, by decide⟩ := by decide
  exact run_between_splits (by decide) (by decide) (by decide) hfirst hlast hwhole

end Scan

end LogSieve
