import LogSieve.Proofs.Scan.Unlimited

/-!
# Scans with a limit

A scan with a limit finds the first records that are asked for among those before
the first fault of the file.  The fault counts only if there are fewer of them than
the limit (`run_limited`): a scan that asks for less may come further down the file,
and meet a fault behind the place where the other one stopped.
-/

namespace LogSieve.Scan

variable {stack : Stack}

/-- The records before the first line with a fault, and this fault, the first line having the given
number. -/
def readableFrom (stack : Stack) (number : Nat) : List Text → List Record × Option LineFault
  | [] => ([], none)
  | line :: rest =>
    if Text.allBlank line then readableFrom stack (number + 1) rest
    else
      match Record.ofLine stack line (some (Int.ofNat number)) none with
      | .error fault => ([], some fault)
      | .ok record =>
        let (records, fault) := readableFrom stack (number + 1) rest
        (record :: records, fault)

/-- The records of a file before its first fault, and this fault. -/
def readableIn (stack : Stack) (lines : List Text × Option Store.ReadFault) :
    List Record × Option ScanFault :=
  match readableFrom stack 1 lines.1 with
  | (records, some fault) => (records, some (.line fault))
  | (records, none) => (records, lines.2.map .reading)

/-- The records of the file of a scan before its first fault, and this fault. -/
def readable (host : Host) (scan : Scan) : Except ScanFault (List Record × Option ScanFault) := do
  let path := Store.Path.ofText scan.path
  let bytes ← fileAt host path
  match Encoding.Codec.ofName? scan.encoding with
  | none => .error .unknownEncoding
  | some codec =>
    .ok (readableIn host.stack
      ((Store.Contents.ofFile path.name bytes).lines codec scan.onMalformed))

/-- The first records with a property, up to a limit; if there are fewer of them, a fault counts. -/
def upTo (limit : Nat) (p : Record → Bool) (file : List Record × Option ScanFault) :
    Except ScanFault (List Record) :=
  if limit ≤ (file.1.filter p).length then .ok ((file.1.filter p).take limit)
  else
    match file.2 with
    | none => .ok (file.1.filter p)
    | some fault => .error fault

/-! ## The first records are found -/

theorem collect_eq_upTo (window : Window) (query : Query) {room : Nat} (hroom : 0 < room)
    (found : List Record) (number : Nat) (lines : List Text) :
    collect (recordOf? stack window query) (some room) found number lines =
      let (records, fault) := readableFrom stack number lines
      let kept := records.filter (asks stack window query)
      if room ≤ kept.length then .ok (found.reverse ++ kept.take room, true)
      else
        match fault with
        | none => .ok (found.reverse ++ kept, false)
        | some fault => .error fault := by
  induction lines generalizing room found number with
  | nil => simp [collect, readableFrom, Nat.not_le.mpr hroom]
  | cons line rest ih =>
      rw [collect, readableFrom, recordOf?]
      by_cases hblank : Text.allBlank line = true
      · rw [if_pos hblank, if_pos hblank]
        exact ih hroom found (number + 1)
      · rw [if_neg hblank, if_neg hblank]
        cases Record.ofLine stack line (some (Int.ofNat number)) none with
        | error fault => simp [Except.map, Nat.not_le.mpr hroom]
        | ok record =>
            cases hasks : asks stack window query record with
            | true =>
                have hkept : (window.admits record && query.holds stack record) = true := hasks
                simp only [Except.map, hkept, if_true, Option.some.injEq, List.filter_cons_of_pos,
                  hasks, List.length_cons]
                by_cases hlast : room = 1
                · -- the last one that there is room for: the rest is not read
                  simp [hlast]
                · obtain ⟨more, rfl⟩ : ∃ more, room = more + 1 := ⟨room - 1, by omega⟩
                  rw [if_neg hlast, Option.map_some, Nat.add_sub_cancel, ih (by omega)]
                  simp only [Nat.add_le_add_iff_right, List.take_succ_cons, List.reverse_cons,
                    List.append_assoc, List.singleton_append]
            | false =>
                have hdropped : (window.admits record && query.holds stack record) = false := hasks
                simp only [Except.map, hdropped, Bool.false_eq_true, if_false, ih hroom,
                  List.filter_cons_of_neg, hasks, not_false_eq_true]

/-- A scan of some lines with a limit finds the first records that are asked for. -/
theorem recordsOf_eq_upTo (window : Window) (query : Query) {limit : Nat} (hlimit : 0 < limit)
    (lines : List Text × Option Store.ReadFault) :
    recordsOf stack window query (some limit) lines =
      upTo limit (asks stack window query) (readableIn stack lines) := by
  obtain ⟨lines, ending⟩ := lines
  unfold recordsOf readableIn
  rw [collect_eq_upTo window query hlimit]
  obtain ⟨records, fault⟩ := readableFrom stack 1 lines
  simp only [List.reverse_nil, List.nil_append]
  by_cases hfull : limit ≤ (records.filter (asks stack window query)).length
  · cases fault <;> simp only [upTo, hfull, if_true]
  · cases fault with
    | some fault => simp only [upTo, hfull, if_false]
    | none => cases ending <;> simp only [upTo, hfull, if_false, Option.map_none, Option.map_some]

theorem run_limited (host : Host) (scan : Scan) (window : Window) {limit : Int}
    (hlimit : 0 < limit) :
    run host { scan with window := .ok window, limit := some limit } =
      (readable host scan).bind (upTo limit.toNat (asks host.stack window scan.query)) := by
  have hpositive : ¬ limit ≤ 0 := by omega
  unfold run readable
  simp only [Option.any_some, hpositive, decide_false, Bool.false_eq_true, if_false,
    Option.map_some]
  cases fileAt host (Store.Path.ofText scan.path) with
  | error fault => rfl
  | ok bytes =>
      cases Encoding.Codec.ofName? scan.encoding with
      | none => rfl
      | some codec => exact recordsOf_eq_upTo window scan.query (by omega) _

/-! ## The whole file -/

theorem recordsFrom_eq_readableFrom (number : Nat) (lines : List Text) :
    recordsFrom stack number lines =
      match readableFrom stack number lines with
      | (records, none) => .ok records
      | (_, some fault) => .error fault := by
  induction lines generalizing number with
  | nil => rfl
  | cons line rest ih =>
      rw [recordsFrom, readableFrom]
      by_cases hblank : Text.allBlank line = true
      · rw [if_pos hblank, if_pos hblank, ih]
      · rw [if_neg hblank, if_neg hblank]
        cases Record.ofLine stack line (some (Int.ofNat number)) none with
        | error fault => rfl
        | ok record =>
            simp only [ih]
            obtain ⟨records, fault⟩ := readableFrom stack (number + 1) rest
            cases fault <;> rfl

theorem recordsIn_eq (lines : List Text × Option Store.ReadFault) :
    recordsIn stack lines =
      match readableIn stack lines with
      | (records, none) => .ok records
      | (_, some fault) => .error fault := by
  obtain ⟨lines, ending⟩ := lines
  unfold recordsIn readableIn
  rw [recordsFrom_eq_readableFrom]
  obtain ⟨records, fault⟩ := readableFrom stack 1 lines
  cases fault with
  | some fault => rfl
  | none => cases ending <;> rfl

theorem recordsOfFile_eq (host : Host) (scan : Scan) :
    recordsOfFile host scan =
      (readable host scan).bind fun file =>
        match file with
        | (records, none) => .ok records
        | (_, some fault) => .error fault := by
  unfold recordsOfFile readable
  dsimp only
  cases fileAt host (Store.Path.ofText scan.path) with
  | error fault => rfl
  | ok bytes =>
      cases Encoding.Codec.ofName? scan.encoding with
      | none => rfl
      | some codec => exact recordsIn_eq _

/-- A fault anywhere in a file is one for a scan without a limit. -/
theorem run_unlimited_of_fault {host : Host} {scan : Scan} {records : List Record}
    {fault : ScanFault} (h : readable host scan = .ok (records, some fault)) (window : Window) :
    run host { scan with window := .ok window, limit := none } = .error fault := by
  rw [run_eq_map_filter, recordsOfFile_eq, h]
  rfl

/-! ## Asking for less -/

/-- What is among the first elements with a property stays so when fewer elements count. -/
theorem mem_take_filter_of_imp {α : Type} {p q : α → Bool} (himp : ∀ a, q a = true → p a = true)
    {list : List α} {limit : Nat} {a : α} (ha : q a = true) (h : a ∈ (list.filter p).take limit) :
    a ∈ (list.filter q).take limit := by
  induction list generalizing limit with
  | nil => simp at h
  | cons b rest ih =>
      cases limit with
      | zero => simp at h
      | succ limit =>
          cases hq : q b with
          | true =>
              rw [List.filter_cons_of_pos (himp b hq), List.take_succ_cons] at h
              rw [List.filter_cons_of_pos hq, List.take_succ_cons]
              rcases List.mem_cons.mp h with rfl | hrest
              · exact List.mem_cons_self
              · exact List.mem_cons_of_mem b (ih hrest)
          | false =>
              rw [List.filter_cons_of_neg (by simp [hq])]
              cases hp : p b with
              | true =>
                  -- the place that this one had is free
                  rw [List.filter_cons_of_pos hp, List.take_succ_cons] at h
                  rcases List.mem_cons.mp h with rfl | hrest
                  · rw [hq] at ha
                    cases ha
                  · exact (List.take_sublist_take_left (Nat.le_succ limit)).mem (ih hrest)
              | false =>
                  rw [List.filter_cons_of_neg (by simp [hp])] at h
                  exact ih h

theorem upTo_eq_ok_iff {limit : Nat} {p : Record → Bool} {file : List Record × Option ScanFault}
    {found : List Record} :
    upTo limit p file = .ok found ↔
      found = (file.1.filter p).take limit ∧
        (limit ≤ (file.1.filter p).length ∨ file.2 = none) := by
  unfold upTo
  split
  · rename_i hfull
    simp [hfull, eq_comm]
  · rename_i hroom
    split
    · rename_i hfault
      simp [hfault, List.take_of_length_le (Nat.le_of_not_le hroom), eq_comm]
    · rename_i fault hfault
      simp [hroom, hfault]

theorem upTo_eq_error_iff {limit : Nat} {p : Record → Bool} {file : List Record × Option ScanFault}
    {fault : ScanFault} :
    upTo limit p file = .error fault ↔
      (file.1.filter p).length < limit ∧ file.2 = some fault := by
  unfold upTo
  split
  · rename_i hfull
    simp [Nat.not_lt.mpr hfull]
  · rename_i hroom
    split
    · rename_i hfault
      simp [hfault]
    · rename_i other hother
      simp [hother, Nat.not_le.mp hroom]

section Narrower

variable {host : Host} {scan : Scan} {wide narrow : Window} {limit : Int} {found : List Record}

theorem exists_readable_of_run (hlimit : 0 < limit)
    (h : run host { scan with window := .ok wide, limit := some limit } = .ok found) :
    ∃ file, readable host scan = .ok file ∧
      upTo limit.toNat (asks host.stack wide scan.query) file = .ok found := by
  rw [run_limited host scan wide hlimit] at h
  exact exists_of_bind_eq_ok h

/-- Every record that a scan finds belongs to its window. -/
theorem admits_of_mem_run (hlimit : 0 < limit)
    (h : run host { scan with window := .ok wide, limit := some limit } = .ok found)
    {record : Record} (hrecord : record ∈ found) : wide.admits record = true := by
  obtain ⟨file, -, hfile⟩ := exists_readable_of_run hlimit h
  obtain ⟨rfl, -⟩ := upTo_eq_ok_iff.mp hfile
  have hasks := (List.mem_filter.mp (List.mem_of_mem_take hrecord)).2
  exact (Bool.and_eq_true_iff.mp hasks).1

/-- What a scan finds is still found in a narrower window that it belongs to. -/
theorem mem_run_of_narrower (hlimit : 0 < limit)
    (hnarrower : ∀ record, narrow.admits record = true → wide.admits record = true)
    (hfound : run host { scan with window := .ok wide, limit := some limit } = .ok found)
    {less : List Record}
    (hless : run host { scan with window := .ok narrow, limit := some limit } = .ok less)
    {record : Record} (hrecord : record ∈ found) (hadmits : narrow.admits record = true) :
    record ∈ less := by
  obtain ⟨file, hread, hfile⟩ := exists_readable_of_run hlimit hfound
  obtain ⟨same, hsame, hnarrow⟩ := exists_readable_of_run hlimit hless
  obtain rfl : file = same := Except.ok.inj (hread.symm.trans hsame)
  obtain ⟨rfl, -⟩ := upTo_eq_ok_iff.mp hfile
  obtain ⟨rfl, -⟩ := upTo_eq_ok_iff.mp hnarrow
  have himp : ∀ record, asks host.stack narrow scan.query record = true →
      asks host.stack wide scan.query record = true := by
    intro record hasks
    obtain ⟨hin, hholds⟩ := Bool.and_eq_true_iff.mp hasks
    exact Bool.and_eq_true_iff.mpr ⟨hnarrower record hin, hholds⟩
  have hasks := (List.mem_filter.mp (List.mem_of_mem_take hrecord)).2
  refine mem_take_filter_of_imp himp ?_ hrecord
  exact Bool.and_eq_true_iff.mpr ⟨hadmits, (Bool.and_eq_true_iff.mp hasks).2⟩

/-- A scan in another window can only fail if the first one stopped at its limit, and then no scan
without a limit comes to an end. -/
theorem fault_of_run_eq_error (hlimit : 0 < limit)
    (hfound : run host { scan with window := .ok wide, limit := some limit } = .ok found)
    {fault : ScanFault}
    (hfault : run host { scan with window := .ok narrow, limit := some limit } = .error fault) :
    found.length = limit.toNat ∧
      ∀ window, run host { scan with window := .ok window, limit := none } = .error fault := by
  obtain ⟨⟨records, ending⟩, hread, hfile⟩ := exists_readable_of_run hlimit hfound
  rw [run_limited host scan narrow hlimit, hread] at hfault
  obtain ⟨-, rfl⟩ := upTo_eq_error_iff.mp hfault
  obtain ⟨rfl, hfull | hnone⟩ := upTo_eq_ok_iff.mp hfile
  · exact ⟨List.length_take_of_le hfull, run_unlimited_of_fault hread⟩
  · cases hnone

end Narrower

end LogSieve.Scan
