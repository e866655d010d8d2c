import LogSieve.Proofs.Json.Extent
import LogSieve.Proofs.Record.Limits

/-!
# The first object of a line

The fields of a line are those of its first JSON object as long as no brace stands before
this object: the object is then found at its own brace, cut off at the closing one and read
as it would be alone (`Embedded.candidate?_of_ofText`).  The cut needs no more than the count
of braces: wherever the text of an object begins, the count takes this text and nothing else
(`Embedded.untilBalanced_of_isObject`).

Only the first brace of a line is tried.  One that stands before the first object begins no
object, whether it is balanced or not, so the line counts as one without an object and is
read as pairs (`not_holdsObject_of_isFirstObject`).  `sameFields_iff_of_isFirstObject` puts
both together.
-/

namespace LogSieve

/-- The text of a JSON object of a certain depth at most, with blanks around it or without. -/
def Json.IsObject (depth : Nat) (text : Text) : Prop :=
  ∃ members, Json.Value.ofText depth text = .ok (.object members)

/-- The first place of a line where the text of an object begins, and such a text. -/
structure Content.IsFirstObject (stack : Stack) (line : Text) (start : Nat) (object : Text) :
    Prop where
  begins : object <+: line.drop start
  isObject : Json.IsObject stack.values object
  first : ∀ earlier < start, ∀ other, other <+: line.drop earlier →
    ¬ Json.IsObject stack.values other

instance (depth : Nat) (text : Text) : Decidable (Json.IsObject depth text) :=
  match h : Json.Value.ofText depth text with
  | .ok (.object members) => isTrue ⟨members, h⟩
  | .ok .null | .ok (.boolean _) | .ok (.integer _) | .ok (.number _) | .ok (.string _)
  | .ok (.array _) | .error _ => isFalse (by
      rintro ⟨members, hmembers⟩
      rw [h] at hmembers
      cases hmembers)

variable {stack : Stack}

/-- The texts that begin at a place are those of all lengths. -/
theorem Content.isFirstObject_iff {line object : Text} {start : Nat} :
    Content.IsFirstObject stack line start object ↔
      object <+: line.drop start ∧ Json.IsObject stack.values object ∧
      ∀ earlier < start, ∀ length ≤ line.length,
        ¬ Json.IsObject stack.values ((line.drop earlier).take length) := by
  constructor
  · intro h
    exact ⟨h.begins, h.isObject, fun earlier hearlier length _ =>
      h.first earlier hearlier _ (List.take_prefix _ _)⟩
  · rintro ⟨hbegins, hobject, hfirst⟩
    refine ⟨hbegins, hobject, fun earlier hearlier other hother => ?_⟩
    rw [List.prefix_iff_eq_take.mp hother]
    refine hfirst earlier hearlier _ (hother.length_le.trans ?_)
    rw [List.length_drop]
    exact Nat.sub_le _ _

instance (line object : Text) (start : Nat) :
    Decidable (Content.IsFirstObject stack line start object) :=
  decidable_of_iff' _ Content.isFirstObject_iff

/-- Two lines that can be read have the same text for each name of a field. -/
def Content.SameFields (stack : Stack) (first second : Text) : Prop :=
  ∃ one other, Content.ofLine stack first = .ok one ∧ Content.ofLine stack second = .ok other ∧
    ∀ key, Association.get? key one.fields = Association.get? key other.fields

namespace Embedded

/-! ## From brace to brace -/

/-- Where the text of an object begins that is nothing but the object, the count of braces ends just
behind it: what is cut out is this text, and all of it. -/
theorem untilBalanced_of_isObject {depth : Nat} {text object : Text} {start : Nat}
    (hbegins : object <+: text.drop start) (hobject : Json.IsObject depth object)
    (hopen : object.head? = some '\x7b') (hclose : object.getLast? = some '\x7d') :
    untilBalanced 0 false false (text.drop start) = some object := by
  obtain ⟨members, hmembers⟩ := hobject
  obtain ⟨inside, rfl⟩ := List.head?_eq_some_iff.mp hopen
  obtain ⟨rest, hread, hblank⟩ := Json.exists_rest_of_ofText hmembers
  rw [Json.skipBlanks_of_head (by decide)] at hread
  obtain ⟨inner, rfl, hbalanced⟩ := Json.untilBalanced_of_readValue hread
  -- the reader leaves blanks at most, and here there are none
  rw [← List.cons_append] at hclose
  obtain rfl := Json.eq_nil_of_skipBlanks hblank hclose
  obtain ⟨tail, htail⟩ := hbegins
  rw [← htail]
  simpa using hbalanced tail

/-- An object with braces and escaped marks in its strings, an escaped backslash before a mark, and
an object inside an array. -/
def knottedObject : Text :=
  "\x7b\"a\\\"\x7d\": [\x7b\"\\\\\": NaN\x7d, -1e5], \"\x7b\": \x7b\x7d\x7d".toList

/-- A closing brace and a mark stand before the object, and more of them behind it. -/
theorem untilBalanced_of_knottedObject :
    (knottedObject <+: ("\x7d \" ".toList ++ knottedObject ++ "\x7d\"\x7b".toList).drop 4 ∧
      Json.IsObject 3 knottedObject ∧ knottedObject.head? = some '\x7b' ∧
      knottedObject.getLast? = some '\x7d') ∧
      untilBalanced 0 false false
          (("\x7d \" ".toList ++ knottedObject ++ "\x7d\"\x7b".toList).drop 4) =
        some knottedObject := by
  have hbegins : knottedObject <+:
      ("\x7d \" ".toList ++ knottedObject ++ "\x7d\"\x7b".toList).drop 4 := by
    decide
  have hobject : Json.IsObject 3 knottedObject := by decide +kernel
  exact ⟨⟨hbegins, hobject, by decide, by decide⟩,
    untilBalanced_of_isObject hbegins hobject (by decide) (by decide)⟩

/-! ## The first brace -/

/-- The braces that are tried stand behind a text without one. -/
theorem prefix_of_candidate? {line before object : Text}
    (h : candidate? line = some (before, object)) :
    before ++ object <+: line ∧ '\x7b' ∉ before := by
  have hjoined := List.takeWhile_append_dropWhile (p := (· != '\x7b')) (l := line)
  unfold candidate? at h
  simp only at h
  split at h
  · cases h
  · rename_i fromBrace hdrop
    obtain ⟨braces, hbalanced, heq⟩ := Option.map_eq_some_iff.mp h
    obtain ⟨rfl, rfl⟩ := Prod.mk.inj heq
    constructor
    · conv_rhs => rw [← hjoined]
      exact (List.prefix_append_right_inj _).mpr (prefix_of_untilBalanced hbalanced).2
    · intro hmem
      simpa using List.mem_takeWhile_imp hmem

/-- The object of a line is found if no brace stands before it. -/
theorem candidate?_of_ofText {text : Text} {members : Association Text Json.Value}
    (h : Json.Value.ofText stack.values text = .ok (.object members)) :
    ∃ object, Json.Value.ofText stack.values object = .ok (.object members) ∧
      ∀ before tail, '\x7b' ∉ before →
        ∃ front, candidate? (Text.strip (before ++ text ++ tail)) = some (front, object) := by
  obtain ⟨front, object, back, rfl, hfront, hread⟩ := Json.exists_object_of_ofText h
  refine ⟨'\x7b' :: object, ?_, fun before tail hbefore => ?_⟩
  · rw [Json.Value.ofText, Json.skipBlanks_of_head (by decide), hread]
    rfl
  · have hnone : '\x7b' ∉ before ++ front := by
      rw [List.mem_append, not_or]
      exact ⟨hbefore, hfront⟩
    have hcandidate := candidate?_of_readValue hnone hread (back ++ tail)
    refine ⟨Text.stripStart (before ++ front), ?_⟩
    simpa only [List.append_assoc, List.cons_append] using hcandidate

end Embedded

namespace Content

theorem ofLine_of_candidate? {line before object : Text} {members : Association Text Json.Value}
    (hcandidate : Embedded.candidate? line.strip = some (before, object))
    (h : Json.Value.ofText stack.values object = .ok (.object members)) :
    ∃ message, ofLine stack line = .ok ⟨message, Embedded.fieldsOf members⟩ := by
  rw [ofLine, Embedded.content?, hcandidate]
  simp only [h]
  exact ⟨_, rfl⟩

variable {line object : Text} {start : Nat}

/-- A brace before the first object of a line begins no object, but it is the one that is tried. -/
theorem not_holdsObject_of_isFirstObject (h : IsFirstObject stack line start object)
    (hbrace : '\x7b' ∈ line.take start) : ¬ HoldsObject stack line := by
  rintro ⟨before, found, members, hcandidate, hmembers⟩
  obtain ⟨hbegins, hnone⟩ := Embedded.prefix_of_candidate? hcandidate
  obtain ⟨front, back, hfront, -, hline⟩ := Text.exists_append_strip_append line
  have hsplit : ∃ rest, line = (front ++ before) ++ (found ++ rest) := by
    obtain ⟨rest, hstrip⟩ := hbegins
    refine ⟨rest ++ back, ?_⟩
    rw [hline, ← hstrip]
    simp only [List.append_assoc]
  obtain ⟨rest, rfl⟩ := hsplit
  have hstart : start ≤ (front ++ before).length := by
    refine Nat.le_of_not_lt fun hearlier => h.first _ hearlier found ?_ ⟨members, hmembers⟩
    rw [List.drop_left]
    exact List.prefix_append found rest
  rw [List.take_append_of_le_length hstart] at hbrace
  rcases List.mem_append.mp (List.mem_of_mem_take hbrace) with hmem | hmem
  · exact absurd (Text.allBlank_iff.mp hfront _ hmem) (by decide)
  · exact hnone hmem

/-- A line has the fields of its first object exactly if no brace stands before the object, or the
pairs on the line happen to be the fields of the object. -/
theorem sameFields_iff_of_isFirstObject (h : IsFirstObject stack line start object) :
    (∃ content, ofLine stack object = .ok content) ∧
      (SameFields stack line object ↔ '\x7b' ∉ line.take start ∨
        (∀ fault, ¬ Overruns stack line fault) ∧ ∃ content, ofLine stack object = .ok content ∧
          ∀ key, Association.get? key (Pairs.ofLine line) =
            Association.get? key content.fields) := by
  obtain ⟨members, hmembers⟩ := h.isObject
  obtain ⟨found, hfound, hcandidate⟩ := Embedded.candidate?_of_ofText hmembers
  obtain ⟨tail, htail⟩ := h.begins
  have hline : line.take start ++ object ++ tail = line := by
    rw [List.append_assoc, htail, List.take_append_drop]
  obtain ⟨alone, hobject⟩ : ∃ message,
      ofLine stack object = .ok ⟨message, Embedded.fieldsOf members⟩ := by
    obtain ⟨front, hfront⟩ := hcandidate [] [] List.not_mem_nil
    rw [List.nil_append, List.append_nil] at hfront
    exact ofLine_of_candidate? hfront hfound
  refine ⟨⟨_, hobject⟩, ?_⟩
  by_cases hbrace : '\x7b' ∈ line.take start
  · have hnot := not_holdsObject_of_isFirstObject h hbrace
    constructor
    · rintro ⟨one, other, hone, hother, hsame⟩
      obtain rfl := ofLine_of_not_holdsObject hnot hone
      exact .inr ⟨exists_ofLine_iff.mp ⟨_, hone⟩, other, hother, hsame⟩
    · rintro (hnone | ⟨hreadable, other, hother, hsame⟩)
      · exact absurd hbrace hnone
      · obtain ⟨one, hone⟩ := exists_ofLine_iff.mpr hreadable
        obtain rfl := ofLine_of_not_holdsObject hnot hone
        exact ⟨_, other, hone, hother, hsame⟩
  · obtain ⟨front, hfront⟩ := hcandidate (line.take start) tail hbrace
    rw [hline] at hfront
    obtain ⟨message, hone⟩ := ofLine_of_candidate? hfront hfound
    exact iff_of_true ⟨_, _, hone, hobject, fun _ => rfl⟩ (.inl hbrace)

/-- A balanced pair of braces that is no object stands before the object of a line, and hides it. -/
theorem sameFields_iff_of_balancedBraces :
    IsFirstObject .direct "\x7bx\x7d\x7b\"a\": 1\x7d".toList 3 "\x7b\"a\": 1\x7d".toList ∧
      ¬ SameFields .direct "\x7bx\x7d\x7b\"a\": 1\x7d".toList "\x7b\"a\": 1\x7d".toList := by
  have hfirst : IsFirstObject .direct "\x7bx\x7d\x7b\"a\": 1\x7d".toList 3
      "\x7b\"a\": 1\x7d".toList := by
    decide +kernel
  have hobject : (ofLine .direct "\x7b\"a\": 1\x7d".toList).map Content.fields =
      .ok [("a".toList, "1".toList)] := by
    decide +kernel
  refine ⟨hfirst, fun hsame => ?_⟩
  rcases (sameFields_iff_of_isFirstObject hfirst).2.mp hsame with hnone | ⟨-, other, hother, hpairs⟩
  · exact absurd hnone (by decide)
  · rw [hother] at hobject
    have hfields : other.fields = [("a".toList, "1".toList)] := Except.ok.inj hobject
    have hpair := hpairs "a".toList
    rw [hfields] at hpair
    exact absurd hpair (by decide +kernel)

end Content

end LogSieve
