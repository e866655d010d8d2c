import LogSieve.Proofs.Number.Rounding
import LogSieve.Proofs.Query.LeadingNumber
import LogSieve.Proofs.Query.Negation
import LogSieve.Proofs.Query.Printing
import LogSieve.Proofs.Query.Selection

/-!
# Ranges of integers

A query for the integers from one to another selects exactly the records whose field begins
with an integer in between (`holds_integerRange_iff`).  Three things come together: the
query is read as a range, since an integer names no severity; the ends and the value are
read as the integers that they are, whatever unit follows the value; and integers of up to
fifty-three bits are numbers of the format, so that comparing them loses nothing.
-/

namespace LogSieve.Query

variable {stack : Stack}

open Number

/-! ## Written integers -/

theorem mem_ofInt {n : Int} {c : Char} (h : c ∈ Text.ofInt n) :
    c = '-' ∨ Text.isAsciiDigit c = true := by
  unfold Text.ofInt at h
  split at h
  · exact (List.mem_cons.mp h).imp id Text.isAsciiDigit_of_mem_ofNat
  · exact .inr (Text.isAsciiDigit_of_mem_ofNat h)

/-- What the scan, the reading of ranges and the names of severities make of a digit. -/
theorem digit_facts {c : Char} (h : Text.isAsciiDigit c = true) :
    c ≠ 'Σ' ∧ Text.lowerOf c = [c] ∧ ∀ severity ∈ Severity.all, c ∉ severity.name := by
  have hsmall : ∀ n < 128, Text.isAsciiDigit (Char.ofNat n) = true →
      Char.ofNat n ≠ 'Σ' ∧ Text.lowerOf (Char.ofNat n) = [Char.ofNat n] ∧
        ∀ severity ∈ Severity.all, Char.ofNat n ∉ severity.name := by
    decide
  have hlt : c.toNat < 128 := by
    have hle := (Text.isAsciiDigit_iff.mp h).2
    omega
  have hc := hsmall c.toNat hlt
  rw [Char.ofNat_toNat] at hc
  exact hc h

/-- No severity is named by an integer. -/
theorem ofName?_ofInt (n : Int) : Severity.ofName? (Text.ofInt n) = none := by
  obtain ⟨c, rest, hdigits, hc⟩ := Text.exists_ofNat_eq_cons n.natAbs
  obtain ⟨sign, -, heq, -⟩ := exists_ofInt_eq n
  obtain ⟨hsigma, hlower, hnames⟩ := digit_facts hc
  refine ofName?_eq_none_of_mem hsigma hlower hnames ?_
  rw [heq, hdigits]
  exact List.mem_append_right _ List.mem_cons_self

theorem isRangeEnd_ofInt (n : Int) : IsRangeEnd (Text.ofInt n) where
  ne_nil := by
    obtain ⟨sign, -, heq, -⟩ := exists_ofInt_eq n
    rw [heq]
    exact List.append_ne_nil_of_right_ne_nil _ Nat.toDigits_ne_nil
  isPlain := by
    intro c hc
    rcases mem_ofInt hc with rfl | hdigit
    · decide
    · have hword : Text.isAsciiWord c = true := by
        simp only [Text.isAsciiWord, Bool.or_eq_true]
        exact .inl (.inr hdigit)
      refine ⟨(isInert_of_isAsciiWord hword).2.1, ?_, ?_, ?_⟩
      · exact Text.isAsciiDigit_ne hdigit (by decide)
      · exact Text.isAsciiDigit_ne hdigit (by decide)
      · exact Text.isAsciiDigit_ne hdigit (by decide)

theorem point_not_mem_ofInt (n : Int) : '.' ∉ Text.ofInt n := by
  intro hpoint
  rcases mem_ofInt hpoint with hdash | hdigit
  · exact absurd hdash (by decide)
  · exact absurd hdigit (by decide)

/-- Two integers behind a key are read as a range, whatever the key is. -/
theorem terms_integerRange {key : Text} (hkey : IsKey key) (first last : Int) :
    (Query.ofText (key ++ ':' :: (Text.ofInt first ++ '.' :: '.' :: Text.ofInt last))).terms =
      [⟨false, .range key (Text.ofInt first) (Text.ofInt last)⟩] := by
  have hdots : ¬ ['.', '.'] <:+: Text.ofInt first := fun hdots =>
    point_not_mem_ofInt first (hdots.subset List.mem_cons_self)
  have hend : (Text.ofInt first).getLast? ≠ some '.' := fun hend =>
    point_not_mem_ofInt first (List.mem_of_getLast? hend)
  -- Also behind the key of levels this is no range of severities.
  have hlevel : ¬ (isLevelKey key = true ∧ (Severity.ofName? (Text.ofInt first)).isSome = true ∧
      (Severity.ofName? (Text.ofInt last)).isSome = true) := by
    rintro ⟨-, hname, -⟩
    rw [ofName?_ofInt] at hname
    cases hname
  exact (prints_range hkey (isRangeEnd_ofInt first) (isRangeEnd_ofInt last) hdots hend
    hlevel).terms_ofText

/-! ## The value -/

/-- What an integer may be followed by and still be read as it stands. -/
def IsUnit (unit : Text) : Prop :=
  ∀ c ∈ unit.head?, Text.isDigit c = false ∧ c ≠ '.' ∧ c ≠ 'e' ∧ c ≠ 'E'

/-- An integer at the start of a value is read, and not rounded if it is small enough. -/
theorem leadingNumber?_ofInt {n : Int} (hn : n.natAbs ≤ 2 ^ 53) {unit : Text}
    (hunit : IsUnit unit) :
    ∃ negative mantissa exponent, leadingNumber? (Text.ofInt n ++ unit) =
        some (.finite negative mantissa exponent) ∧
      Binary64.value negative mantissa exponent = n := by
  obtain ⟨sign, hsign, heq, hnegative⟩ := exists_ofInt_eq n
  have hdigits := areDigits_ofNat n.natAbs
  -- The unit ends the mantissa and starts no exponent.
  have hstops : StopsMantissa (Text.ofNat n.natAbs) unit := by
    intro c hc
    obtain ⟨hdigit, hpoint, -⟩ := hunit c hc
    exact ⟨hdigit, fun hc => absurd hc hpoint⟩
  have hexponent : (exponent? Text.digitValue? unit).getD (0, unit) = (0, unit) := by
    rw [exponent?_eq_none fun c hc => (hunit c hc).2.2]
    rfl
  have hread := magnitude?_append (decide (n < 0)) (.whole hdigits) hstops
    (wholeMantissa?_whole hdigits) hexponent
  have hstrip : Text.stripStart (Text.ofInt n ++ unit) = Text.ofInt n ++ unit :=
    (isNumeral_ofInt n).stripStart_append unit
  obtain ⟨mantissa, exponent, hdecimal, hmagnitude⟩ :=
    Binary64.exists_ofDecimal_eq (decide (n < 0)) hn
  refine ⟨decide (n < 0), mantissa, exponent, ?_, ?_⟩
  · have hsplit : Text.ofInt n ++ unit = sign ++ (Text.ofNat n.natAbs ++ unit) := by
      rw [heq, List.append_assoc]
    rw [leadingNumber?, hstrip, hsplit, numeral?_eq,
      sign?_append hsign (hdigits.stopsSign excludesSigns_digitValue? unit), hnegative, hread,
      Option.map_some, ← hdecimal]
    simp only [Numeral.toBinary64, Literal.toBinary64, List.append_nil, numberOf_filterMap_ofNat,
      List.length_nil, Nat.cast_zero, Int.sub_zero]
  · rw [Binary64.value, hmagnitude]
    by_cases hneg : n < 0
    · rw [if_pos (decide_eq_true hneg), Nat.cast_natAbs, abs_of_neg hneg]
      push_cast
      exact neg_neg _
    · rw [if_neg (by simpa using hneg), Nat.cast_natAbs, abs_of_nonneg (not_lt.mp hneg)]

theorem isUnit_nil : IsUnit [] := by
  intro c hc
  cases hc

/-- A query for the integers from one to another selects a record just if its field begins with
one of them. -/
theorem holds_integerRange_iff {key : Text} (hkey : IsKey key) {first last number : Int}
    (hfirst : first.natAbs ≤ 2 ^ 53) (hlast : last.natAbs ≤ 2 ^ 53)
    (hnumber : number.natAbs ≤ 2 ^ 53) {unit : Text} (hunit : IsUnit unit) {record : Record}
    (hfield : Association.get? key record.fields = some (Text.ofInt number ++ unit)) :
    (Query.ofText (key ++ ':' :: (Text.ofInt first ++ '.' :: '.' :: Text.ofInt last))).holds
        stack record = true ↔ first ≤ number ∧ number ≤ last := by
  obtain ⟨_, _, _, hreadFirst, hvalueFirst⟩ := leadingNumber?_ofInt hfirst isUnit_nil
  obtain ⟨_, _, _, hreadLast, hvalueLast⟩ := leadingNumber?_ofInt hlast isUnit_nil
  obtain ⟨_, _, _, hread, hvalue⟩ := leadingNumber?_ofInt hnumber hunit
  rw [List.append_nil] at hreadFirst hreadLast
  have hrange : (Condition.range key (Text.ofInt first) (Text.ofInt last)).holds stack record =
      inRange (Text.ofInt first) (Text.ofInt last) (Text.ofInt number ++ unit) := by
    rw [Condition.holds, hfield, Option.any_some]
  rw [holds_of_terms_eq_singleton (terms_integerRange hkey first last), Term.holds, hrange,
    Bool.bne_false, inRange, hread, hreadFirst, hreadLast]
  -- The comparison is one of finite numbers, and these are the three integers.
  simp only [Bool.and_eq_true, Binary64.atMost_finite_iff, hvalueFirst, hvalueLast, hvalue,
    Int.cast_le]

/-- A record of a request that took forty-two milliseconds. -/
def timedRecord : Record :=
  ⟨"took=42ms".toList, none, [("took".toList, "42ms".toList)], none, none, none⟩

theorem holds_integerRange_of_timedRecord :
    (Query.ofText "took:-5..100".toList).holds .direct timedRecord = true := by
  have hkey : IsKey "took".toList := isKey_iff.mpr (by decide)
  have hunit : IsUnit "ms".toList := by
    intro c hc
    obtain rfl : 'm' = c := Option.some.inj hc
    decide
  have hfield : Association.get? "took".toList timedRecord.fields =
      some (Text.ofInt 42 ++ "ms".toList) := by decide
  refine (@holds_integerRange_iff _ _ hkey (-5) 100 42 (by decide) (by decide) (by decide) _ hunit _
    hfield).mpr ?_
  omega

end LogSieve.Query
