import LogSieve.Proofs.Json.Numbers
import LogSieve.Proofs.Number.Rounding
import LogSieve.Proofs.Number.Written
import LogSieve.Proofs.Query.LeadingNumber
import LogSieve.Proofs.Record.Embedded
import LogSieve.Query.Matching

/-!
# Numbers of embedded objects in ranges

The field of a number begins with a number again, whichever way the object spells it, and a
range with numeric ends compares it as a number.  There is one exception: a number with a
fraction or an exponent that is rounded to an infinity is written with a word that the
reader of values does not know, and is compared as a text (`Content.ofLine_number`).
-/

namespace LogSieve

variable {stack : Stack}

namespace Json.NumberText

/-- What a spelling stands for, without its sign. -/
def magnitude (number : NumberText) : ℚ :=
  Text.numberOf 10 (number.literal.whole ++ number.literal.fraction) *
    10 ^ (number.literal.exponent - number.literal.fraction.length)

/-- Integers, and numbers that are not rounded to an infinity. -/
def IsKept (number : NumberText) : Prop :=
  number.isInteger = true ∨ number.magnitude < Binary64.overflowBound

end Json.NumberText

namespace Query

open Number

/-! ## Texts of numbers -/

/-- A digit behind a minus or none is the start of a number. -/
theorem leadingNumber?_ne_none {magnitude : Text} (h : Binary64.StartsWithDigit magnitude)
    (negative : Bool) : leadingNumber? ((if negative then ['-'] else []) ++ magnitude) ≠ none := by
  obtain ⟨c, rest, rfl, hc⟩ := h
  have hdigits : AreDigits Text.digitValue? [c] := by
    refine ⟨List.cons_ne_nil c [], List.forall_mem_singleton.mpr ?_⟩
    rw [Text.digitValue?_of_isAsciiDigit hc]
    rfl
  have hmagnitude : IsMagnitude [c] := .decimal (.whole hdigits) (.inl rfl)
  cases negative with
  | true => exact leadingNumber?_append_ne_none (.intro .minus hmagnitude) rest
  | false => exact leadingNumber?_append_ne_none (.intro .nothing hmagnitude) rest

theorem leadingNumber?_ofInt_ne_none (n : Int) : leadingNumber? (Text.ofInt n) ≠ none := by
  have hread := leadingNumber?_append_ne_none (isNumeral_ofInt n) []
  rwa [List.append_nil] at hread

/-- The field of a number that is not rounded to an infinity. -/
theorem exists_fieldText?_finite (negative : Bool) (mantissa : Nat) (exponent : Int) :
    ∃ text, (Json.Value.number (.finite negative mantissa exponent)).fieldText? = some text ∧
      leadingNumber? text ≠ none := by
  rw [Json.Value.fieldText?]
  split
  · -- the number is integral, and its field is that of the integer
    exact ⟨_, rfl, leadingNumber?_ofInt_ne_none _⟩
  · obtain ⟨magnitude, hstarts, htext⟩ := Binary64.exists_text_finite negative mantissa exponent
    exact ⟨_, rfl, htext ▸ leadingNumber?_ne_none hstarts negative⟩

/-- The field of an infinity. -/
theorem exists_fieldText?_infinite (negative : Bool) :
    ∃ text, (Json.Value.number (.infinite negative)).fieldText? = some text ∧
      leadingNumber? text = none := by
  cases negative with
  | true => exact ⟨"-inf".toList, rfl, rfl⟩
  | false => exact ⟨"inf".toList, rfl, rfl⟩

/-- The field of a number is read as a number just if the number is kept. -/
theorem exists_fieldText? (number : Json.NumberText) :
    ∃ text, number.value.fieldText? = some text ∧ (leadingNumber? text ≠ none ↔ number.IsKept) := by
  rw [Json.NumberText.value]
  split
  · rename_i hinteger
    exact ⟨_, rfl, iff_of_true (leadingNumber?_ofInt_ne_none _) (.inl hinteger)⟩
  · rename_i hinteger
    rcases Binary64.ofDecimal_spec number.negative
        (Text.numberOf 10 (number.literal.whole ++ number.literal.fraction))
        (number.literal.exponent - number.literal.fraction.length) with
      ⟨hlarge, hinfinite⟩ | ⟨hsmall, mantissa, exponent, hfinite⟩
    · obtain ⟨text, htext, hnone⟩ := exists_fieldText?_infinite number.negative
      refine ⟨text, ?_, iff_of_false (not_not.mpr hnone) ?_⟩
      · rw [Literal.toBinary64]
        exact hinfinite ▸ htext
      · rintro (h | h)
        · exact hinteger h
        · exact absurd hlarge (not_le.mpr h)
    · obtain ⟨text, htext, hread⟩ := exists_fieldText?_finite number.negative mantissa exponent
      refine ⟨text, ?_, iff_of_true hread (.inr hsmall)⟩
      rw [Literal.toBinary64]
      exact hfinite ▸ htext

end Query

/-! ## The line -/

namespace Json

/-- The object with a number as its single member. -/
def numberObject (spelling : Text) (number : NumberText) : Text :=
  '\x7b' :: '"' :: (spelling ++ '"' :: ':' :: ' ' :: (number.written ++ ['\x7d']))

theorem readValue_numberObject {depth : Nat} (hdepth : 0 < depth) {spelling key : Text}
    (hkey : readString (spelling ++ ['"']) = .ok (key, [])) {number : NumberText}
    (hshort : number.isInteger = true → number.whole.length ≤ digitLimit) :
    readValue depth (numberObject spelling number) =
      .ok (.object [(key, number.value)], []) := by
  have hmark : skipBlanks ('"' :: (spelling ++ '"' :: ':' :: ' ' :: (number.written ++ ['\x7d']))) =
      '"' :: (spelling ++ '"' :: ':' :: ' ' :: (number.written ++ ['\x7d'])) :=
    skipBlanks_of_head (by decide) _
  have hkeyRead : readKey ('"' :: (spelling ++ '"' :: ':' :: ' ' :: (number.written ++ ['\x7d']))) =
      .ok (key, number.written ++ ['\x7d']) := by
    have hstring := readString_append hkey (':' :: ' ' :: (number.written ++ ['\x7d']))
    rw [List.append_assoc, List.singleton_append, List.nil_append] at hstring
    have hcolon : skipBlanks (':' :: ' ' :: (number.written ++ ['\x7d'])) =
        ':' :: ' ' :: (number.written ++ ['\x7d']) := skipBlanks_of_head (by decide) _
    have hskip := (number.starts_written.append ['\x7d']).skipBlanks
    rw [readKey, hstring]
    simp only [bind, Except.bind, hcolon, skipBlanks_space, hskip]
  -- One level of the depth goes to the object.
  obtain ⟨inner, rfl⟩ : ∃ inner, depth = inner + 1 := Nat.exists_eq_add_one.mpr hdepth
  have hvalue := readValue_number hshort inner (follows_cons (.inr (.inr rfl)) []).endsNumber
  have hend : skipBlanks ['\x7d'] = ['\x7d'] := skipBlanks_of_head (by decide) []
  rw [numberObject, readValue_object (by rw [hmark]; simp),
    hmark, List.length_cons]
  simp only [readMembers, bind, Except.bind, hkeyRead, hvalue, hend]
  rfl

end Json

/-- The content of a line with a number as the single member of its object. -/
theorem Content.ofLine_numberObject {spelling key text : Text}
    (hkey : Json.readString (spelling ++ ['"']) = .ok (key, [])) {number : Json.NumberText}
    (hshort : number.isInteger = true → number.whole.length ≤ Json.digitLimit)
    (htext : number.value.fieldText? = some text) :
    ∃ message, ofLine stack (Json.numberObject spelling number) = .ok ⟨message, [(key, text)]⟩ := by
  -- Nothing stands around the object, so the search for one ends at its first brace.
  have hread := Json.readValue_numberObject stack.values_pos hkey hshort
  have hcandidate := Embedded.candidate?_of_readValue List.not_mem_nil hread []
  rw [List.nil_append, List.append_nil] at hcandidate
  have hvalue : Json.Value.ofText stack.values (Json.numberObject spelling number) =
      .ok (.object [(key, number.value)]) := by
    rw [Json.Value.ofText, Json.numberObject, Json.skipBlanks_of_head (by decide)]
    rw [Json.numberObject] at hread
    rw [hread]
    rfl
  have hfields : Embedded.fieldsOf [(key, number.value)] = [(key, text)] := by
    simp only [Embedded.fieldsOf, List.filterMap_cons, htext]
    rfl
  rw [ofLine, Embedded.content?]
  rw [Json.numberObject] at hvalue ⊢
  rw [hcandidate]
  simp only [hvalue, hfields]
  exact ⟨_, rfl⟩

/-- The field of a number, and how ranges compare it.  If the number is an integer or is not
rounded to an infinity, the field is read as a number and a range with numeric ends compares it
as one; else it is no number, and every range compares it as a text. -/
theorem Content.ofLine_number {spelling key : Text}
    (hkey : Json.readString (spelling ++ ['"']) = .ok (key, [])) {number : Json.NumberText}
    (hshort : number.isInteger = true → number.whole.length ≤ Json.digitLimit) :
    ∃ content text, ofLine stack (Json.numberObject spelling number) = .ok content ∧
      Association.get? key content.fields = some text ∧
      (number.IsKept → ∃ value, Query.leadingNumber? text = some value ∧
        ∀ (record : Record) (first last : Text) (low high : Binary64),
          record.fields = content.fields → Query.leadingNumber? first = some low →
          Query.leadingNumber? last = some high →
          (Query.Condition.range key first last).holds stack record =
            (low.atMost value && value.atMost high)) ∧
      (¬ number.IsKept → Query.leadingNumber? text = none ∧
        ∀ (record : Record) (first last : Text), record.fields = content.fields →
          (Query.Condition.range key first last).holds stack record =
            (first.atMost text && text.atMost last)) := by
  obtain ⟨text, htext, hkept⟩ := Query.exists_fieldText? number
  obtain ⟨message, hline⟩ := ofLine_numberObject hkey hshort htext
  have hget : Association.get? key [(key, text)] = some text := if_pos rfl
  have hholds : ∀ (record : Record) (first last : Text), record.fields = [(key, text)] →
      (Query.Condition.range key first last).holds stack record = Query.inRange first last text := by
    intro record first last hfields
    rw [Query.Condition.holds, hfields, hget, Option.any_some]
  refine ⟨_, text, hline, hget, ?_, ?_⟩
  · intro hnumber
    obtain ⟨value, hvalue⟩ := Option.ne_none_iff_exists'.mp (hkept.mpr hnumber)
    refine ⟨value, hvalue, ?_⟩
    intro record first last low high hfields hlow hhigh
    rw [hholds record first last hfields, Query.inRange, hvalue, hlow, hhigh]
  · intro hnumber
    have hnone : Query.leadingNumber? text = none := not_not.mp (mt hkept.mp hnumber)
    refine ⟨hnone, ?_⟩
    intro record first last hfields
    rw [hholds record first last hfields, Query.inRange, hnone]

/-- A number below all numbers of the format. -/
def Json.hugeNumber : Json.NumberText where
  negative := true
  whole := ['1']
  fraction := []
  exponent := "e400".toList
  isWhole := ⟨List.cons_ne_nil '1' [], List.forall_mem_singleton.mpr rfl⟩
  startsWhole := by decide
  isFraction := isFraction_nil
  isExponent :=
    .inr (.intro (.inl rfl) .nothing ⟨List.cons_ne_nil '4' ['0', '0'], List.all_eq_true.mp rfl⟩)

theorem Json.not_isKept_hugeNumber : ¬ hugeNumber.IsKept := by
  have hliteral : hugeNumber.literal = ⟨true, [1], [], 400⟩ := by decide
  have hlarge : Binary64.overflowBound ≤ hugeNumber.magnitude := by
    rw [NumberText.magnitude, hliteral]
    calc Binary64.overflowBound
        ≤ 2 ^ (1024 : Int) := Binary64.overflowBound_bounds.2
      _ ≤ 2 ^ (3 * 400 : Int) := zpow_le_zpow_right₀ one_le_two (by decide)
      _ ≤ 10 ^ (400 : Int) := Binary64.two_zpow_le_ten_zpow (by decide)
      _ = (Text.numberOf 10 [1] : Nat) * 10 ^ (400 : Int) := by
          rw [show Text.numberOf 10 [1] = 1 from rfl, Nat.cast_one, one_mul]
  rintro (hinteger | hsmall)
  · exact absurd hinteger (by decide)
  · exact absurd hlarge (not_le.mpr hsmall)

/-- A number with a fraction and an exponent. -/
def Json.smallNumber : Json.NumberText where
  negative := false
  whole := ['2']
  fraction := ['5']
  exponent := "E-1".toList
  isWhole := ⟨List.cons_ne_nil '2' [], List.forall_mem_singleton.mpr rfl⟩
  startsWhole := by decide
  isFraction := List.forall_mem_singleton.mpr rfl
  isExponent := .inr (.intro (.inr rfl) .minus ⟨List.cons_ne_nil '1' [], List.all_eq_true.mp rfl⟩)

theorem Json.isKept_smallNumber : smallNumber.IsKept := by
  have hliteral : smallNumber.literal = ⟨false, [2], [5], -1⟩ := by decide
  have hsmall : smallNumber.magnitude = 1 / 4 := by
    rw [NumberText.magnitude, hliteral]
    norm_num [Text.numberOf]
  have hpower : (1 : ℚ) ≤ 2 ^ 970 := one_le_pow₀ one_le_two
  refine .inr ?_
  calc smallNumber.magnitude
      < (2 ^ 54 - 1) * 1 := by
        rw [hsmall]
        norm_num
    _ ≤ Binary64.overflowBound := mul_le_mul_of_nonneg_left hpower (by norm_num)

/-- A number that is rounded to an infinity, and one that is not. -/
theorem Content.ofLine_hugeNumber_and_smallNumber :
    (∃ content text, ofLine .direct "\x7b\"k\": -1e400\x7d".toList = .ok content ∧
      Association.get? "k".toList content.fields = some text ∧
      Query.leadingNumber? text = none) ∧
    ∃ content text value, ofLine .direct "\x7b\"k\": 2.5E-1\x7d".toList = .ok content ∧
      Association.get? "k".toList content.fields = some text ∧
      Query.leadingNumber? text = some value := by
  have hkey : Json.readString ("k".toList ++ ['"']) = .ok ("k".toList, []) := rfl
  constructor
  · have hshort : Json.hugeNumber.isInteger = true →
        Json.hugeNumber.whole.length ≤ Json.digitLimit := fun _ => by decide
    obtain ⟨content, text, hline, hget, -, hnone⟩ := Content.ofLine_number hkey hshort
    exact ⟨content, text, hline, hget, (hnone Json.not_isKept_hugeNumber).1⟩
  · have hshort : Json.smallNumber.isInteger = true →
        Json.smallNumber.whole.length ≤ Json.digitLimit := fun _ => by decide
    obtain ⟨content, text, hline, hget, hsome, -⟩ := Content.ofLine_number hkey hshort
    obtain ⟨value, hvalue, -⟩ := hsome Json.isKept_smallNumber
    exact ⟨content, text, value, hline, hget, hvalue⟩

end LogSieve
