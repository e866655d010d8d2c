import LogSieve.Proofs.Calendar.Instant
import LogSieve.Proofs.Json.Limits
import LogSieve.Proofs.Record.Embedded

/-!
# Lines that cannot be read

A line has a content unless the object on it exceeds a limit of the JSON reader
(`Content.ofLine_eq_error_iff`): what is malformed is taken for a line without an
object, and a line whose quotation marks are not balanced has no fields.  It has a
record unless, besides, the stamp of its instant falls out of the calendar
(`Record.ofLine_eq_error_iff`).
-/

namespace LogSieve

/-- The object on a line exceeds a limit of the JSON reader, which is a fault of the line. -/
inductive Content.Overruns (stack : Stack) (raw : Text) : LineFault → Prop
  | digits {before object : Text} {count : Nat}
      (hobject : Embedded.candidate? raw.strip = some (before, object))
      (h : Json.Exceeds stack.values object (.tooManyDigits count)) :
      Overruns stack raw (.tooManyDigits count)
  | depth {before object : Text}
      (hobject : Embedded.candidate? raw.strip = some (before, object))
      (h : Json.Exceeds stack.values object .tooDeep) : Overruns stack raw .tooDeep

/-- The first brace of a line leads to a JSON object. -/
def Content.HoldsObject (stack : Stack) (raw : Text) : Prop :=
  ∃ before object members, Embedded.candidate? raw.strip = some (before, object) ∧
    Json.Value.ofText stack.values object = .ok (.object members)

/-- A text is a stamp of an instant before or behind the calendar. -/
def Calendar.IsOutOfCalendar (text : Text) : Prop :=
  ∃ stamp, Stamp.ofText (spellOutZulu text) = .ok stamp ∧
    ¬ (0 ≤ (stamp.moment.micros : Int) - stamp.offset.getD 0 ∧
      (stamp.moment.micros : Int) - stamp.offset.getD 0 < microsInCalendar)

/-- The stamp of a line falls out of the calendar: the one in its fields or, if no instant is there,
the one at its start. -/
inductive Record.LeavesCalendar (raw : Text) (fields : Fields) : Prop
  | field {text : Text} (htext : fields.firstNonempty? timeKeys = some text)
      (h : Calendar.IsOutOfCalendar text)
  | start {text : Text}
      (hfield : ∀ other, fields.firstNonempty? timeKeys = some other →
        Calendar.Instant.ofText? other = .ok none)
      (htext : leadingStamp? (Text.stripStart raw) = some text) (h : Calendar.IsOutOfCalendar text)

/-- Why a line has no record: it has no content, or the stamp of its instant falls out of the
calendar. -/
def Record.FailsBy (stack : Stack) (raw : Text) (fault : LineFault) : Prop :=
  Content.Overruns stack raw fault ∨ fault = .instantOutOfRange ∧
    ∃ content, Content.ofLine stack raw = .ok content ∧ Record.LeavesCalendar raw content.fields

variable {stack : Stack}

/-! ## Objects -/

namespace Embedded

/-- The count of braces keeps what it goes over, which is one character at least. -/
theorem prefix_of_untilBalanced {depth : Nat} {inString escaped : Bool} {text object : Text}
    (h : untilBalanced depth inString escaped text = some object) :
    object ≠ [] ∧ object <+: text := by
  induction text generalizing depth inString escaped object with
  | nil => cases h
  | cons c rest ih =>
      have hmore : ∀ {depth inString escaped},
          (untilBalanced depth inString escaped rest).map (c :: ·) = some object →
            object ≠ [] ∧ object <+: c :: rest := by
        intro depth inString escaped hmap
        obtain ⟨inner, hinner, rfl⟩ := Option.map_eq_some_iff.mp hmap
        exact ⟨List.cons_ne_nil _ _, (List.prefix_cons_inj c).mpr (ih hinner).2⟩
      rw [untilBalanced] at h
      split_ifs at h
      · exact hmore h
      · exact hmore h
      · exact hmore h
      · exact hmore h
      · exact hmore h
      · obtain rfl := Option.some.inj h
        exact ⟨List.cons_ne_nil _ _, rest, rfl⟩
      · exact hmore h
      · exact hmore h

/-- An object on a line starts with a brace, and the line is at least as long. -/
theorem object_of_candidate? {line before object : Text}
    (h : candidate? line = some (before, object)) :
    object.head? = some '\x7b' ∧ object.length ≤ line.length := by
  have hhead := List.head?_dropWhile_not (· != '\x7b') line
  have hlength := (List.dropWhile_sublist (l := line) (· != '\x7b')).length_le
  simp only [candidate?] at h
  cases hline : line.dropWhile (· != '\x7b') with
  | nil =>
      rw [hline] at h
      cases h
  | cons c rest =>
      rw [hline] at h hhead hlength
      obtain ⟨_, hbalanced, hpair⟩ := Option.map_eq_some_iff.mp h
      obtain ⟨-, rfl⟩ := Prod.mk.inj hpair
      obtain ⟨hne, hprefix⟩ := prefix_of_untilBalanced hbalanced
      obtain ⟨d, inner, rfl⟩ := List.exists_cons_of_ne_nil hne
      obtain ⟨rfl, -⟩ := List.cons_prefix_cons.mp hprefix
      have hbrace : d = '\x7b' := by simpa using hhead
      exact ⟨congrArg some hbrace, hprefix.length_le.trans hlength⟩

/-- Reading an object fails for another reason than the grammar where it exceeds a limit. -/
theorem ofText_object_eq_error_iff {line before object : Text}
    (h : candidate? line = some (before, object)) {fault : Json.Fault}
    (hfault : fault ≠ .malformed) :
    Json.Value.ofText stack.values object = .error fault ↔
      Json.Exceeds stack.values object fault := by
  obtain ⟨rest, rfl⟩ := List.head?_eq_some_iff.mp (object_of_candidate? h).1
  rw [Json.ofText_eq_error_iff hfault, Json.skipBlanks_of_head (by decide)]

/-- An object that exceeds a limit is a fault, and one that is malformed is no object. -/
theorem content?_eq_error_iff {raw : Text} {fault : Json.Fault} :
    content? stack raw = .error fault ↔ ∃ before object,
      candidate? raw.strip = some (before, object) ∧ Json.Exceeds stack.values object fault := by
  constructor
  · intro h
    unfold content? at h
    split at h
    · cases h
    · rename_i before object hobject
      refine ⟨before, object, hobject, ?_⟩
      split at h
      · cases h
      · rename_i other hother hread
        obtain rfl : other = fault := Except.error.inj h
        exact (ofText_object_eq_error_iff hobject hother).mp hread
      · cases h
      · cases h
  · rintro ⟨before, object, hobject, hexceeds⟩
    have hread : Json.Value.ofText stack.values object = .error fault :=
      (ofText_object_eq_error_iff hobject hexceeds.ne_malformed).mpr hexceeds
    unfold content?
    rw [hobject]
    simp only [hread]
    cases fault with
    | malformed => exact absurd rfl hexceeds.ne_malformed
    | tooManyDigits => rfl
    | tooDeep => rfl

theorem holdsObject_of_content? {raw : Text} {content : Content}
    (h : content? stack raw = .ok (some content)) : Content.HoldsObject stack raw := by
  unfold content? at h
  split at h
  · cases h
  · rename_i before object hobject
    split at h
    · cases h
    · cases h
    · rename_i members hmembers
      exact ⟨before, object, members, hobject, hmembers⟩
    · cases h

end Embedded

/-! ## Contents -/

namespace Content

/-- A line without a content is one whose object exceeds a limit. -/
theorem ofLine_eq_error_iff {raw : Text} {fault : LineFault} :
    ofLine stack raw = .error fault ↔ Overruns stack raw fault := by
  unfold ofLine
  constructor
  · intro h
    split at h
    · cases h
    · cases h
    · cases h
    · rename_i count hcontent
      obtain rfl := Except.error.inj h
      obtain ⟨before, object, hobject, hexceeds⟩ := Embedded.content?_eq_error_iff.mp hcontent
      exact .digits hobject hexceeds
    · rename_i hcontent
      obtain rfl := Except.error.inj h
      obtain ⟨before, object, hobject, hexceeds⟩ := Embedded.content?_eq_error_iff.mp hcontent
      exact .depth hobject hexceeds
  · intro h
    cases h with
    | digits hobject hexceeds =>
        rw [Embedded.content?_eq_error_iff.mpr ⟨_, _, hobject, hexceeds⟩]
    | depth hobject hexceeds =>
        rw [Embedded.content?_eq_error_iff.mpr ⟨_, _, hobject, hexceeds⟩]

theorem exists_ofLine_iff {raw : Text} :
    (∃ content, ofLine stack raw = .ok content) ↔ ∀ fault, ¬ Overruns stack raw fault :=
  exists_eq_ok_iff.trans (forall_congr' fun _ => ofLine_eq_error_iff.not)

/-- An object with a single long integer. -/
theorem overruns_of_digits (stack : Stack) {digits : Text}
    (hdigits : ∀ c ∈ digits, Text.isAsciiDigit c = true)
    (hzero : digits.head? ≠ some '0') (hlong : Json.digitLimit < digits.length) :
    Overruns stack ('\x7b' :: '"' :: 'a' :: '"' :: ':' :: (digits ++ ['\x7d']))
      (.tooManyDigits digits.length) := by
  have hobject : Embedded.candidate?
      (Text.strip ('\x7b' :: '"' :: 'a' :: '"' :: ':' :: (digits ++ ['\x7d']))) =
        some ([], '\x7b' :: '"' :: 'a' :: '"' :: ':' :: (digits ++ ['\x7d'])) := by
    have hkey : Json.Passes false (['"', 'a', '"'] ++ [':']) :=
      (Json.passes_inside (by decide) (by decide)).quoted.append (Json.passes_singleton (by decide))
    have hvalue : Json.Passes false digits :=
      Json.passes_of_forall fun c hc => Text.isAsciiDigit_not_mem (hdigits c hc) (by decide)
    have hlast : ∀ d ∈ ('"' :: 'a' :: '"' :: ':' :: (digits ++ ['\x7d'])).getLast?,
        Text.isBlank d = false := by
      intro d hd
      have hbrace : (('"' :: 'a' :: '"' :: ':' :: digits) ++ ['\x7d']).getLast? = some '\x7d' :=
        List.getLast?_concat
      obtain rfl : '\x7d' = d := Option.some.inj (hbrace.symm.trans hd)
      decide
    rw [Text.strip_cons_eq_self (by decide) hlast]
    exact Embedded.candidate?_append List.not_mem_nil ((hkey.append hvalue).untilBalanced_eq [])
  have hplace : Json.IsOverlong (digits ++ ['\x7d']) digits.length :=
    ⟨[], digits, ['\x7d'], rfl, .inl rfl, hdigits, hzero, rfl, hlong,
      (Json.follows_cons (.inr (.inr rfl)) []).endsInteger⟩
  obtain ⟨c, more, rfl⟩ : ∃ c more, digits = c :: more := by
    cases digits with
    | nil => cases hlong
    | cons c more => exact ⟨c, more, rfl⟩
  have hkey : Json.readKey ('"' :: 'a' :: '"' :: ':' :: (c :: more ++ ['\x7d'])) =
      .ok (['a'], c :: more ++ ['\x7d']) := by
    have hdigit := Text.isAsciiDigit_not_mem (hdigits c List.mem_cons_self)
      (show [' ', '\t', '\n', '\r'].any Text.isAsciiDigit = false by decide)
    show Except.ok (['a'], Json.skipBlanks (c :: more ++ ['\x7d'])) = _
    rw [List.cons_append, Json.skipBlanks_of_head hdigit]
  obtain ⟨inner, hinner⟩ : ∃ inner, stack.values = inner + 1 :=
    Nat.exists_eq_add_one.mpr stack.values_pos
  refine .digits hobject ?_
  rw [hinner]
  exact .member (.first hkey) (.digits hplace)

/-- What is no object is passed over, and the line is read as pairs. -/
theorem ofLine_of_not_holdsObject {raw : Text} (h : ¬ HoldsObject stack raw) {content : Content}
    (hcontent : ofLine stack raw = .ok content) : content = Pairs.content raw := by
  unfold ofLine at hcontent
  split at hcontent
  · rename_i hfound
    exact absurd (Embedded.holdsObject_of_content? hfound) h
  · exact (Except.ok.inj hcontent).symm
  · exact (Except.ok.inj hcontent).symm
  · cases hcontent
  · cases hcontent

end Content

/-- A line whose quotation marks are not balanced is its own message and has no fields. -/
theorem Pairs.content_of_unbalanced {raw : Text} (h : Words.ofLine? raw = none) :
    content raw = ⟨raw, []⟩ := by
  have hfields : ofLine raw = [] := by rw [ofLine, h]
  rw [content, hfields]
  rfl

/-! ## Instants -/

/-- A stamp that can be read and has no instant. -/
theorem Calendar.Instant.ofText?_eq_error_iff {text : Text} {fault : OutOfRange} :
    Instant.ofText? text = .error fault ↔ IsOutOfCalendar text := by
  unfold Instant.ofText?
  constructor
  · intro h
    split at h
    · cases h
    · rename_i stamp hstamp
      split at h
      · cases h
      · rename_i hnone
        exact ⟨stamp, hstamp, Moment.toInstant?_eq_none_iff.mp hnone⟩
  · rintro ⟨stamp, hstamp, hinside⟩
    have hnone : stamp.toInstant? 0 = none := Moment.toInstant?_eq_none_iff.mpr hinside
    cases fault
    rw [hstamp]
    simp only [hnone]

namespace Record

/-- A text that is there and out of the calendar is why no instant is read from it. -/
theorem instantOf?_eq_error_iff {text : Option Text} {fault : LineFault} :
    instantOf? text = .error fault ↔
      fault = .instantOutOfRange ∧ ∃ stamp, text = some stamp ∧ Calendar.IsOutOfCalendar stamp := by
  cases text with
  | none => exact iff_of_false (fun h => nomatch h) (fun h => nomatch h.2)
  | some stamp =>
      rw [instantOf?]
      constructor
      · intro h
        obtain ⟨reason, hreason, rfl⟩ := exists_of_mapError_eq_error h
        exact ⟨rfl, stamp, rfl, Calendar.Instant.ofText?_eq_error_iff.mp hreason⟩
      · rintro ⟨rfl, _, ⟨⟩, hout⟩
        have hread : Calendar.Instant.ofText? stamp = .error .outOfRange :=
          Calendar.Instant.ofText?_eq_error_iff.mpr hout
        rw [hread]
        rfl

theorem instantOf?_eq_ok_none_iff {text : Option Text} :
    instantOf? text = .ok none ↔
      ∀ stamp, text = some stamp → Calendar.Instant.ofText? stamp = .ok none := by
  cases text with
  | none => exact iff_of_true rfl (fun _ h => nomatch h)
  | some stamp =>
      rw [instantOf?]
      constructor
      · rintro h _ ⟨⟩
        exact ok_of_mapError_eq_ok h
      · intro h
        rw [h stamp rfl]
        rfl

/-- Where the instant of a line is looked for, and where it is found out of the calendar. -/
theorem inferredInstant?_eq_error_iff {raw : Text} {fields : Fields} {fault : LineFault} :
    inferredInstant? raw fields = .error fault ↔
      fault = .instantOutOfRange ∧ LeavesCalendar raw fields := by
  constructor
  · intro h
    rcases bind_eq_error h with hfield | ⟨found, hfield, hstart⟩
    · obtain ⟨rfl, stamp, hstamp, hout⟩ := instantOf?_eq_error_iff.mp hfield
      exact ⟨rfl, .field hstamp hout⟩
    · cases found with
      | some instant => cases hstart
      | none =>
          obtain ⟨rfl, stamp, hstamp, hout⟩ := instantOf?_eq_error_iff.mp hstart
          exact ⟨rfl, .start (instantOf?_eq_ok_none_iff.mp hfield) hstamp hout⟩
  · rintro ⟨rfl, hleaves⟩
    unfold inferredInstant?
    cases hleaves with
    | field hstamp hout =>
        rw [instantOf?_eq_error_iff.mpr ⟨rfl, _, hstamp, hout⟩]
        rfl
    | start hfield hstamp hout =>
        rw [instantOf?_eq_ok_none_iff.mpr hfield]
        exact instantOf?_eq_error_iff.mpr ⟨rfl, _, hstamp, hout⟩

/-- Neither a number nor a level has a part in it. -/
theorem ofLine_eq_error_iff {raw : Text} {number : Option Int} {level : Option Text}
    {fault : LineFault} :
    ofLine stack raw number level = .error fault ↔ FailsBy stack raw fault := by
  constructor
  · intro h
    rcases bind_eq_error h with hcontent | ⟨content, hcontent, hrest⟩
    · exact .inl (Content.ofLine_eq_error_iff.mp hcontent)
    · rcases bind_eq_error hrest with hinstant | ⟨instant, -, hrecord⟩
      · obtain ⟨rfl, hleaves⟩ := inferredInstant?_eq_error_iff.mp hinstant
        exact .inr ⟨rfl, content, hcontent, hleaves⟩
      · cases hrecord
  · rintro (hoverruns | ⟨rfl, content, hcontent, hleaves⟩)
    · rw [ofLine, Content.ofLine_eq_error_iff.mpr hoverruns]
      rfl
    · have hinstant : inferredInstant? raw content.fields = .error .instantOutOfRange :=
        inferredInstant?_eq_error_iff.mpr ⟨rfl, hleaves⟩
      rw [ofLine, hcontent]
      simp only [bind, Except.bind, hinstant]

theorem exists_ofLine_iff {raw : Text} {number : Option Int} {level : Option Text} :
    (∃ record, ofLine stack raw number level = .ok record) ↔ ∀ fault, ¬ FailsBy stack raw fault :=
  exists_eq_ok_iff.trans (forall_congr' fun _ => ofLine_eq_error_iff.not)

end Record

end LogSieve
