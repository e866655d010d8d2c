import LogSieve.Answer
import LogSieve.CommandLine.Outcome
import LogSieve.Resource

/-!
# Answers say all there is to say

An answer is sent as data, and the data leave nothing out: two answers to searches that
are sent alike are the same (`Search.Answer.data_injective`).  What an entry omits, the
fields of a record without any, is understood (`Record.getD_fields_entry`).

A fault is told by its kind and a text, and a text is missing only for three kinds of
faults (`SearchFault.message?_eq_none_iff`, `Resource.Fault.message?_eq_none_iff`).  Of the
faults of a scan, the command line handles those of two kinds, whatever part they come from
(`CommandLine.exists_ofScanFault_iff`).
-/

namespace LogSieve

open Json (Value)
open Json.Value (ofMembers ofOption ofTexts)

/-! ## Values -/

theorem Json.Value.object_map_injective {α : Type} {member : α → Text × Value}
    (hmember : Function.Injective member) :
    Function.Injective fun items : List α => Value.object (items.map member) :=
  fun _ _ h => (List.map_inj_right hmember).mp (Value.object.inj h)

theorem Json.Value.ofMembers_injective : Function.Injective ofMembers := by
  refine object_map_injective fun first second h => ?_
  obtain ⟨hkey, hvalue⟩ := Prod.mk.inj h
  exact Prod.ext (String.toList_injective hkey) hvalue

theorem Json.Value.ofTexts_injective : Function.Injective ofTexts := by
  refine object_map_injective fun first second h => ?_
  obtain ⟨hkey, htext⟩ := Prod.mk.inj h
  exact Prod.ext hkey (Value.string.inj htext)

/-- What may be missing is told apart from what is not, unless it is written as null. -/
theorem Json.Value.ofOption_injective {α : Type} {write : α → Value}
    (hwrite : Function.Injective write) (hnull : ∀ x, write x ≠ .null) :
    Function.Injective (ofOption write) := by
  intro first second h
  cases first with
  | none =>
      cases second with
      | none => rfl
      | some y => exact absurd h.symm (hnull y)
  | some x =>
      cases second with
      | none => exact absurd h (hnull x)
      | some y => exact congrArg some (hwrite h)

theorem Json.Value.ofOption_string_injective : Function.Injective (ofOption Value.string) :=
  ofOption_injective (fun _ _ h => Value.string.inj h) fun _ h => nomatch h

theorem Json.Value.ofOption_integer_injective : Function.Injective (ofOption Value.integer) :=
  ofOption_injective (fun _ _ h => Value.integer.inj h) fun _ h => nomatch h

/-! ## Queries -/

namespace Query

theorem Badge.members_injective : Function.Injective Badge.members := by
  have hvariant : Function.Injective Variant.name := by
    intro first second h
    cases first <;> cases second <;> first | rfl | exact absurd h (by decide)
  rintro ⟨kind, negated, label, description, look⟩ ⟨kind', negated', label', description', look'⟩ h
  simp only [Badge.members, List.cons.injEq, Prod.mk.injEq, Value.string.injEq,
    Value.boolean.injEq, true_and, and_true] at h
  obtain ⟨rfl, rfl, rfl, rfl, hlook⟩ := h
  rw [hvariant hlook]

theorem Condition.members_injective : Function.Injective Condition.members := by
  have hlevel : Function.Injective fun level : Severity => Value.string level.name := by
    intro first second h
    have hread := congrArg Severity.ofExactName? (Value.string.inj h)
    simpa using hread
  intro first second h
  cases first <;> cases second
  case field.field => simpa [members] using h
  case range.range => simpa [members] using h
  case level.level => simpa [members, List.map_inj_right hlevel] using h
  case pattern.pattern => simpa [members] using h
  case text.text => simpa [members] using h
  -- conditions of two kinds differ in the names of their members
  all_goals simp [members] at h

/-- A token is known by its data. -/
theorem Token.data_injective : Function.Injective Token.data := by
  rintro ⟨badge, condition⟩ ⟨badge', condition'⟩ h
  have hmembers := Json.Value.ofMembers_injective h
  obtain ⟨hbadge, hcondition⟩ := List.append_inj hmembers rfl
  obtain rfl : badge = badge' := Badge.members_injective hbadge
  obtain rfl : condition = condition' := Condition.members_injective hcondition
  rfl

end Query

/-! ## Searches -/

/-- What an entry does not tell of the fields is that there are none. -/
theorem Record.getD_fields_entry (includeRaw : Bool) (record : Record) :
    (record.entry includeRaw).fields.getD [] = record.fields := by
  unfold Record.entry
  cases hfields : record.fields with
  | nil => rfl
  | cons field rest => rfl

/-- Two members that may be missing are told apart by their names. -/
theorem optionalMembers_inj {α β : Type} {write : α → Value} {write' : β → Value}
    (hwrite : Function.Injective write) (hwrite' : Function.Injective write') {name name' : String}
    (hname : name ≠ name') {x y : Option α} {x' y' : Option β}
    (h : (x.map fun a => (name, write a)).toList ++ (x'.map fun b => (name', write' b)).toList =
      (y.map fun a => (name, write a)).toList ++ (y'.map fun b => (name', write' b)).toList) :
    x = y ∧ x' = y' := by
  cases x <;> cases y
  case none.none => cases x' <;> cases y' <;> simp_all [hwrite'.eq_iff]
  case none.some => cases x' <;> cases y' <;> simp [hname.symm] at h
  case some.none => cases x' <;> cases y' <;> simp [hname] at h
  case some.some => cases x' <;> cases y' <;> simp_all [hwrite.eq_iff, hwrite'.eq_iff]

theorem Entry.data_injective : Function.Injective Entry.data := by
  rintro ⟨number, timestamp, level, message, fields, raw⟩
    ⟨number', timestamp', level', message', fields', raw'⟩ h
  have hmembers := Json.Value.ofMembers_injective h
  rw [List.append_assoc, List.append_assoc] at hmembers
  obtain ⟨hfixed, hoptional⟩ := List.append_inj hmembers rfl
  simp only [List.cons.injEq, Prod.mk.injEq, true_and, and_true] at hfixed
  obtain ⟨hnumber, htimestamp, hlevel, hmessage⟩ := hfixed
  obtain rfl : number = number' := Json.Value.ofOption_integer_injective hnumber
  obtain rfl : timestamp = timestamp' := Json.Value.ofOption_string_injective htimestamp
  obtain rfl : level = level' := Json.Value.ofOption_string_injective hlevel
  obtain rfl : message = message' := Json.Value.ofOption_string_injective hmessage
  obtain ⟨hfields, hraw⟩ := optionalMembers_inj Json.Value.ofTexts_injective
    (fun _ _ h => Value.string.inj h) (by decide) hoptional
  obtain rfl : fields = fields' := hfields
  obtain rfl : raw = raw' := hraw
  rfl

namespace Search

/-- An answer is known by its data. -/
theorem Answer.data_injective : Function.Injective Answer.data := by
  rintro ⟨count, entries, tokens⟩ ⟨count', entries', tokens'⟩ h
  have hmembers := Json.Value.ofMembers_injective h
  simp only [List.cons.injEq, Prod.mk.injEq, Value.integer.injEq, Value.array.injEq, true_and,
    and_true, Int.natCast_inj] at hmembers
  obtain ⟨rfl, hentries, htokens⟩ := hmembers
  obtain rfl : entries = entries' := (List.map_inj_right Entry.data_injective).mp hentries
  obtain rfl : tokens = tokens' := (List.map_inj_right Query.Token.data_injective).mp htokens
  rfl

end Search

/-! ## Faults -/

theorem LineFault.message?_eq_none_iff {fault : LineFault} :
    fault.message? = none ↔ fault.kind = .recursion := by
  cases fault <;> simp [message?, kind]

theorem Store.ReadFault.message?_eq_none_iff {fault : ReadFault} :
    fault.message? = none ↔ fault.kind = .decoding := by
  cases fault <;> simp [message?, kind]

/-- A fault of a line is of none of the kinds of a fault of a file. -/
theorem LineFault.kind_mem (fault : LineFault) :
    fault.kind ∈ [FaultKind.value, .recursion, .overflow] := by
  cases fault <;> simp [kind]

theorem Store.ReadFault.kind_mem (fault : ReadFault) :
    fault.kind ∈ [FaultKind.badGzip, .endOfFile, .decompression, .decoding] := by
  cases fault <;> simp [kind]

/-- A scan says nothing only of a stack without room, of a codec that is not known and of bytes that
stand for no text. -/
theorem ScanFault.message?_eq_none_iff {fault : ScanFault} :
    fault.message? = none ↔ fault.kind ∈ [FaultKind.recursion, .lookup, .decoding] := by
  cases fault with
  | line fault =>
      have hkind := fault.kind_mem
      rw [message?, kind, LineFault.message?_eq_none_iff]
      revert hkind
      cases fault.kind <;> simp
  | reading fault =>
      have hkind := fault.kind_mem
      rw [message?, kind, Store.ReadFault.message?_eq_none_iff]
      revert hkind
      cases fault.kind <;> simp
  | _ => simp [message?, kind]

theorem SearchFault.message?_eq_none_iff {fault : SearchFault} :
    fault.message? = none ↔ fault.kind ∈ [FaultKind.recursion, .lookup, .decoding] := by
  cases fault with
  | bound name text fault => cases fault <;> simp [message?, kind, BoundFault.kind]
  | scan fault => exact ScanFault.message?_eq_none_iff

theorem Resource.Fault.message?_eq_none_iff {fault : Fault} :
    fault.message? = none ↔ fault.kind = .decoding := by
  cases fault with
  | reading fault => exact Store.ReadFault.message?_eq_none_iff
  | _ => simp [message?, kind]

/-- The command line ends with an outcome of its own where a file is missing or a value is refused,
and any other fault of the scan goes through. -/
theorem CommandLine.exists_ofScanFault_iff {fault : ScanFault} :
    (∃ outcome, ofScanFault fault = .ok outcome) ↔
      fault.kind = .fileNotFound ∨ fault.kind = .value := by
  cases fault with
  | line fault => cases fault <;> simp [ofScanFault, ScanFault.message?, LineFault.message?,
      ScanFault.kind, LineFault.kind]
  | reading fault => cases fault <;> simp [ofScanFault, ScanFault.kind, Store.ReadFault.kind]
  | _ => simp [ofScanFault, ScanFault.message?, ScanFault.kind]

end LogSieve
