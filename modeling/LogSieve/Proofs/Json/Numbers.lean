import LogSieve.Proofs.Json.Scalars

/-!
# Numbers of the grammar

Every spelling of a number is read to its end, if no part of a number follows
(`EndsNumber`), and the reader gives the value that the spelling stands for: an integer if
it has neither a fraction nor an exponent, else the number nearest to the decimal
(`readNumber_written`).  The parts are read one after another, each as far as its own
characters go.  Nothing but such a spelling is read (`exists_number_of_readNumber`).  The
text of an integer is one of these spellings.
-/

namespace LogSieve.Json

/-- A number as the grammar spells it: digits without a zero in front, perhaps a fraction, perhaps
an exponent.  The digits of a fraction that is not there are an empty text. -/
structure NumberText where
  negative : Bool
  whole : Text
  fraction : Text
  exponent : Text
  isWhole : Number.AreDigits digit? whole
  startsWhole : whole.head? = some '0' → whole = ['0']
  isFraction : ∀ c ∈ fraction, (digit? c).isSome = true
  isExponent : Number.IsOptionalExponent digit? exponent

/-- The digits of a fraction that is not there. -/
theorem isFraction_nil : ∀ c ∈ ([] : Text), (digit? c).isSome = true := List.forall_mem_nil _

/-- The digits of a fraction with their point, if there are any. -/
def pointed : Text → Text
  | [] => []
  | digits => '.' :: digits

namespace NumberText

/-- A spelling without its sign. -/
def unsigned (number : NumberText) : Text :=
  number.whole ++ (pointed number.fraction ++ number.exponent)

/-- The characters of a spelling. -/
def written (number : NumberText) : Text :=
  if number.negative then '-' :: number.unsigned else number.unsigned

/-- Whether a spelling is that of an integer. -/
def isInteger (number : NumberText) : Bool := number.fraction.isEmpty && number.exponent.isEmpty

/-- The decimal of a spelling. -/
def literal (number : NumberText) : Number.Literal :=
  ⟨number.negative, number.whole.filterMap digit?, number.fraction.filterMap digit?,
    Number.exponentValue digit? number.exponent⟩

/-- The value of a spelling. -/
def value (number : NumberText) : Value :=
  if number.isInteger then
    let size := Int.ofNat (Text.numberOf 10 (number.whole.filterMap digit?))
    .integer (if number.negative then -size else size)
  else .number number.literal.toBinary64

end NumberText

/-! ## Where the parts end -/

theorem excludesSigns_digit? : Number.ExcludesSigns digit? := ⟨rfl, rfl⟩

/-- A text that goes on with no part of a number. -/
def EndsNumber (rest : Text) : Prop :=
  ∀ c ∈ rest.head?, digit? c = none ∧ c ≠ '.' ∧ c ≠ 'e' ∧ c ≠ 'E'

theorem Follows.endsNumber {rest : Text} (h : Follows rest) : EndsNumber rest := by
  intro c hc
  rcases h c hc with rfl | rfl | rfl <;> decide

/-- What comes behind a fraction does not go on with a digit or a point. -/
theorem head?_exponent {exponent rest : Text} (h : Number.IsOptionalExponent digit? exponent)
    (hrest : EndsNumber rest) : ∀ c ∈ (exponent ++ rest).head?, digit? c = none ∧ c ≠ '.' := by
  intro c hc
  rcases h with rfl | ⟨hletter, -, -⟩
  · obtain ⟨hdigit, hpoint, -⟩ := hrest c hc
    exact ⟨hdigit, hpoint⟩
  · obtain rfl := Option.some.inj hc
    rcases hletter with rfl | rfl <;> decide

/-- What comes behind the digits before the point does not go on with a digit. -/
theorem stopsDigits_pointed (fraction : Text) {exponent rest : Text}
    (h : Number.IsOptionalExponent digit? exponent) (hrest : EndsNumber rest) :
    Number.StopsDigits digit? (pointed fraction ++ (exponent ++ rest)) := by
  intro c hc
  cases fraction with
  | nil => exact (head?_exponent h hrest c hc).1
  | cons d more =>
      obtain rfl := Option.some.inj hc
      decide

/-! ## The parts -/

theorem integerPart?_whole {whole rest : Text} (h : Number.AreDigits digit? whole)
    (hzero : whole.head? = some '0' → whole = ['0']) (hrest : Number.StopsDigits digit? rest) :
    integerPart? (whole ++ rest) = some (whole.filterMap digit?, rest) := by
  obtain ⟨c, more, rfl⟩ := List.exists_cons_of_ne_nil h.ne_nil
  -- Behind a zero the reader stops at once.
  by_cases hc : c = '0'
  · subst hc
    obtain rfl : more = [] := (List.cons.inj (hzero rfl)).2
    rfl
  · have hrun := Number.digitRun_append h.isDigit hrest
    obtain ⟨value, values, hvalues⟩ := List.exists_cons_of_ne_nil h.filterMap_ne_nil
    rw [hvalues] at hrun ⊢
    unfold integerPart?
    split
    · exact absurd (List.cons.inj ‹_›).1 hc
    · rw [hrun]

theorem fraction?_pointed {fraction rest : Text} (h : ∀ c ∈ fraction, (digit? c).isSome = true)
    (hrest : ∀ c ∈ rest.head?, digit? c = none ∧ c ≠ '.') :
    fraction? (pointed fraction ++ rest) =
      if fraction.isEmpty then none else some (fraction.filterMap digit?, rest) := by
  cases fraction with
  | nil =>
      unfold fraction?
      split
      · rename_i heq
        exact absurd rfl (hrest '.' (by rw [show rest = '.' :: _ from heq]; rfl)).2
      · rfl
  | cons c more =>
      have hdigits : Number.AreDigits digit? (c :: more) := ⟨List.cons_ne_nil c more, h⟩
      have hrun := Number.digitRun_append h fun d hd => (hrest d hd).1
      obtain ⟨value, values, hvalues⟩ := List.exists_cons_of_ne_nil hdigits.filterMap_ne_nil
      rw [hvalues] at hrun ⊢
      show fraction? ('.' :: (c :: more ++ rest)) = _
      rw [fraction?, hrun]
      rfl

theorem exponent?_optional {exponent rest : Text} (h : Number.IsOptionalExponent digit? exponent)
    (hrest : EndsNumber rest) :
    Number.exponent? digit? (exponent ++ rest) =
      if exponent.isEmpty then none else some (Number.exponentValue digit? exponent, rest) := by
  rcases h with rfl | ⟨hletter, hsign, hdigits⟩
  · exact Number.exponent?_eq_none fun c hc => (hrest c hc).2.2
  · rw [Number.exponentValue_cons excludesSigns_digit? hletter hsign hdigits, List.cons_append,
      List.append_assoc,
      Number.exponent?_append excludesSigns_digit? hletter hsign hdigits fun c hc => (hrest c hc).1]
    rfl

/-! ## Whole numbers -/

/-- What the reader makes of the parts of a number. -/
def ofParts (negative : Bool) (whole : List Nat) (rest : Text)
    (fraction : Option (List Nat × Text)) (exponent : Option (Int × Text)) :
    Except Fault (Value × Text) :=
  match fraction, exponent with
  | none, none =>
    if whole.length > digitLimit then .error (.tooManyDigits whole.length)
    else
      let size := Int.ofNat (Text.numberOf 10 whole)
      .ok (.integer (if negative then -size else size), rest)
  | fraction, exponent =>
    let digits := fraction.elim [] Prod.fst
    let afterFraction := fraction.elim rest Prod.snd
    let literal : Number.Literal := ⟨negative, whole, digits, exponent.elim 0 Prod.fst⟩
    .ok (.number literal.toBinary64, exponent.elim afterFraction Prod.snd)

/-- The reader behind the sign. -/
def readUnsigned (negative : Bool) (text : Text) : Except Fault (Value × Text) :=
  match integerPart? text with
  | none => .error .malformed
  | some (whole, rest) =>
    ofParts negative whole rest (fraction? rest)
      (Number.exponent? digit? ((fraction? rest).elim rest Prod.snd))

theorem readNumber_minus (text : Text) : readNumber ('-' :: text) = readUnsigned true text := rfl

theorem readNumber_digit {c : Char} (h : c ≠ '-') (text : Text) :
    readNumber (c :: text) = readUnsigned false (c :: text) := by
  unfold readNumber
  split
  rename_i negative unsigned heq
  split at heq
  · exact absurd (List.cons.inj ‹_›).1 h
  · obtain ⟨rfl, rfl⟩ := Prod.mk.inj heq
    rfl

namespace NumberText

variable (number : NumberText)

/-- A spelling starts with a digit, behind a minus if there is one. -/
theorem exists_unsigned_eq_cons :
    ∃ c rest, number.unsigned = c :: rest ∧ Text.isAsciiDigit c = true := by
  obtain ⟨c, more, hwhole⟩ := List.exists_cons_of_ne_nil number.isWhole.ne_nil
  refine ⟨c, more ++ (pointed number.fraction ++ number.exponent), ?_, ?_⟩
  · rw [unsigned, hwhole, List.cons_append]
  · exact isAsciiDigit_of_digit? (number.isWhole.isDigit c (hwhole ▸ List.mem_cons_self))

/-- What is read where the parts of a spelling are found, each behind the one before it. -/
theorem readUnsigned_of_parts {text rest : Text}
    (hwhole : integerPart? text = some (number.whole.filterMap digit?,
      pointed number.fraction ++ (number.exponent ++ rest)))
    (hfraction : fraction? (pointed number.fraction ++ (number.exponent ++ rest)) =
      if number.fraction.isEmpty then none
      else some (number.fraction.filterMap digit?, number.exponent ++ rest))
    (hexponent : Number.exponent? digit? (number.exponent ++ rest) =
      if number.exponent.isEmpty then none
      else some (Number.exponentValue digit? number.exponent, rest)) :
    readUnsigned number.negative text =
      if number.isInteger = true ∧ digitLimit < number.whole.length then
        .error (.tooManyDigits number.whole.length)
      else .ok (number.value, rest) := by
  have hafter : (fraction? (pointed number.fraction ++ (number.exponent ++ rest))).elim
      (pointed number.fraction ++ (number.exponent ++ rest)) Prod.snd = number.exponent ++ rest := by
    rw [hfraction]
    cases number.fraction <;> rfl
  have hlength : (number.whole.filterMap digit?).length = number.whole.length := by
    rw [filterMap_digit? fun c hc => isAsciiDigit_of_digit? (number.isWhole.isDigit c hc)]
    exact List.length_map _
  rw [readUnsigned, hwhole]
  show ofParts _ _ _ _ _ = _
  rw [hafter, hexponent, hfraction]
  by_cases hnofraction : number.fraction.isEmpty = true
  · have hfractionNil : number.fraction = [] := List.isEmpty_iff.mp hnofraction
    by_cases hnoexponent : number.exponent.isEmpty = true
    · -- neither a fraction nor an exponent
      have hinteger : number.isInteger = true := by
        rw [isInteger, hnofraction, hnoexponent]
        rfl
      rw [if_pos hnofraction, if_pos hnoexponent, ofParts, hlength, value, if_pos hinteger,
        hfractionNil, List.isEmpty_iff.mp hnoexponent]
      simp only [hinteger, true_and]
      rfl
    · have hinteger : ¬ number.isInteger = true := by
        rw [isInteger, hnofraction, Bool.true_and]
        exact hnoexponent
      rw [if_pos hnofraction, if_neg hnoexponent, value, if_neg hinteger, literal, hfractionNil,
        if_neg fun h => hinteger h.1]
      rfl
  · have hinteger : ¬ number.isInteger = true := by
      rw [isInteger, Bool.and_eq_true, not_and]
      exact fun h => absurd h hnofraction
    by_cases hnoexponent : number.exponent.isEmpty = true
    · rw [if_neg hnofraction, if_pos hnoexponent, value, if_neg hinteger, literal,
        List.isEmpty_iff.mp hnoexponent, if_neg fun h => hinteger h.1]
      rfl
    · rw [if_neg hnofraction, if_neg hnoexponent, value, if_neg hinteger, literal,
        if_neg fun h => hinteger h.1]
      rfl

theorem readUnsigned_append (hshort : number.isInteger = true → number.whole.length ≤ digitLimit)
    {rest : Text} (hrest : EndsNumber rest) :
    readUnsigned number.negative (number.unsigned ++ rest) = .ok (number.value, rest) := by
  have hwhole := integerPart?_whole number.isWhole number.startsWhole
    (stopsDigits_pointed number.fraction number.isExponent hrest)
  have hfraction := fraction?_pointed number.isFraction
    (head?_exponent number.isExponent hrest)
  have hexponent := exponent?_optional number.isExponent hrest
  have htext : number.unsigned ++ rest =
      number.whole ++ (pointed number.fraction ++ (number.exponent ++ rest)) := by
    simp only [unsigned, List.append_assoc]
  rw [htext, number.readUnsigned_of_parts hwhole hfraction hexponent,
    if_neg fun h => Nat.not_lt.mpr (hshort h.1) h.2]

/-- A number is read to its end. -/
theorem readNumber_written (hshort : number.isInteger = true → number.whole.length ≤ digitLimit)
    {rest : Text} (hrest : EndsNumber rest) :
    readNumber (number.written ++ rest) = .ok (number.value, rest) := by
  have hunsigned := number.readUnsigned_append hshort hrest
  rw [written]
  split
  · rename_i hnegative
    rw [List.cons_append, readNumber_minus, ← hnegative, hunsigned]
  · rename_i hpositive
    obtain ⟨c, more, htext, hc⟩ := number.exists_unsigned_eq_cons
    rw [Bool.eq_false_iff.mpr hpositive] at hunsigned
    rw [htext, List.cons_append] at hunsigned ⊢
    rw [readNumber_digit (Text.isAsciiDigit_ne hc (by decide)), hunsigned]

/-- The spelling of an integer. -/
def ofInt (n : Int) : NumberText where
  negative := decide (n < 0)
  whole := Text.ofNat n.natAbs
  fraction := []
  exponent := []
  isWhole := areDigits_of_isAsciiDigit Nat.toDigits_ne_nil fun _ => Text.isAsciiDigit_of_mem_ofNat
  startsWhole := by
    intro hzero
    rcases Nat.eq_zero_or_pos n.natAbs with hn | hn
    · rw [hn]
      rfl
    · exact absurd hzero (Text.head?_ofNat_ne hn)
  isFraction := isFraction_nil
  isExponent := .inl rfl

theorem written_ofInt (n : Int) : (ofInt n).written = Text.ofInt n := by
  have hunsigned : (ofInt n).unsigned = Text.ofNat n.natAbs := List.append_nil _
  rw [written, hunsigned, Text.ofInt]
  exact if_congr decide_eq_true_iff rfl rfl

theorem value_ofInt (n : Int) : (ofInt n).value = .integer n := by
  have hsize : Text.numberOf 10 ((Text.ofNat n.natAbs).filterMap digit?) = n.natAbs := by
    rw [filterMap_digit? fun _ => Text.isAsciiDigit_of_mem_ofNat, Text.numberOf_ofNat]
  show Value.integer (if decide (n < 0) = true then
    -Int.ofNat (Text.numberOf 10 ((Text.ofNat n.natAbs).filterMap digit?))
    else Int.ofNat (Text.numberOf 10 ((Text.ofNat n.natAbs).filterMap digit?))) = .integer n
  rw [hsize, Int.ofNat_eq_natCast]
  split
  · rename_i hnegative
    have hlt := of_decide_eq_true hnegative
    congr 1
    omega
  · rename_i hpositive
    have hge : ¬ n < 0 := fun hlt => hpositive (decide_eq_true hlt)
    congr 1
    omega

end NumberText

/-! ## Nothing else is read -/

theorem exists_whole_of_integerPart? {text rest : Text} {values : List Nat}
    (h : integerPart? text = some (values, rest)) :
    ∃ whole, text = whole ++ rest ∧ Number.AreDigits digit? whole ∧
      (whole.head? = some '0' → whole = ['0']) ∧ whole.filterMap digit? = values := by
  unfold integerPart? at h
  split at h
  · obtain ⟨rfl, rfl⟩ := Prod.mk.inj (Option.some.inj h)
    exact ⟨['0'], rfl, ⟨List.cons_ne_nil _ _, List.forall_mem_singleton.mpr rfl⟩, fun _ => rfl, rfl⟩
  · rename_i hzero
    obtain ⟨whole, after, rfl, hdigits, -, hrun⟩ := Number.exists_digitRun digit? text
    rw [hrun] at h
    split at h
    · cases h
    · rename_i hne
      obtain ⟨rfl, rfl⟩ := Prod.mk.inj (Option.some.inj h)
      refine ⟨whole, rfl, ⟨?_, hdigits⟩, fun hhead => ?_, rfl⟩
      · rintro rfl
        exact hne after rfl
      · obtain ⟨more, rfl⟩ := List.head?_eq_some_iff.mp hhead
        exact absurd rfl (hzero (more ++ after))

/-- The fraction at the start of a text, which may be missing. -/
theorem exists_fraction (text : Text) :
    ∃ fraction rest, text = pointed fraction ++ rest ∧
      (∀ c ∈ fraction, (digit? c).isSome = true) ∧
      fraction? text =
        if fraction.isEmpty then none else some (fraction.filterMap digit?, rest) := by
  cases hread : fraction? text with
  | none => exact ⟨[], text, rfl, isFraction_nil, rfl⟩
  | some read =>
      unfold fraction? at hread
      split at hread
      · rename_i after
        obtain ⟨fraction, rest, rfl, hdigits, -, hrun⟩ := Number.exists_digitRun digit? after
        rw [hrun] at hread
        split at hread
        · cases hread
        · rename_i hne
          obtain rfl := Option.some.inj hread
          have hfraction : fraction ≠ [] := by
            rintro rfl
            exact hne rest rfl
          obtain ⟨c, more, rfl⟩ := List.exists_cons_of_ne_nil hfraction
          exact ⟨c :: more, rest, rfl, hdigits, rfl⟩
      · cases hread

/-- The exponent at the start of a text, which may be missing. -/
theorem exists_optionalExponent (text : Text) :
    ∃ exponent rest, text = exponent ++ rest ∧ Number.IsOptionalExponent digit? exponent ∧
      Number.exponent? digit? text =
        if exponent.isEmpty then none else some (Number.exponentValue digit? exponent, rest) := by
  rcases Number.exists_exponent digit? text with
    hnone | ⟨letter, sign, digits, rest, rfl, hletter, hsign, hdigits, hrest⟩
  · exact ⟨[], text, rfl, .inl rfl, hnone⟩
  · refine ⟨letter :: (sign ++ digits), rest, by simp, .inr ⟨hletter, hsign, hdigits⟩, ?_⟩
    rw [Number.exponent?_append excludesSigns_digit? hletter hsign hdigits hrest,
      Number.exponentValue_cons excludesSigns_digit? hletter hsign hdigits]
    rfl

theorem exists_number_of_readUnsigned {negative : Bool} {text rest : Text} {value : Value}
    (h : readUnsigned negative text = .ok (value, rest)) :
    ∃ number : NumberText, number.negative = negative ∧ text = number.unsigned ++ rest ∧
      number.value = value ∧ (number.isInteger = true → number.whole.length ≤ digitLimit) := by
  cases hinteger : integerPart? text with
  | none =>
      rw [readUnsigned, hinteger] at h
      cases h
  | some read =>
      obtain ⟨values, middle⟩ := read
      obtain ⟨whole, rfl, hwhole, hzero, rfl⟩ := exists_whole_of_integerPart? hinteger
      obtain ⟨fraction, after, rfl, hfraction, hreadFraction⟩ := exists_fraction middle
      obtain ⟨exponent, final, rfl, hexponent, hreadExponent⟩ := exists_optionalExponent after
      have hread := NumberText.readUnsigned_of_parts
        ⟨negative, whole, fraction, exponent, hwhole, hzero, hfraction, hexponent⟩
        hinteger hreadFraction hreadExponent
      rw [hread] at h
      split at h
      · cases h
      · rename_i hshort
        obtain ⟨hvalue, rfl⟩ := Prod.mk.inj (Except.ok.inj h)
        refine ⟨⟨negative, whole, fraction, exponent, hwhole, hzero, hfraction, hexponent⟩, rfl,
          ?_, hvalue, fun hwholeNumber => ?_⟩
        · simp only [NumberText.unsigned, List.append_assoc]
        · exact Nat.le_of_not_lt fun hlong => hshort ⟨hwholeNumber, hlong⟩

/-- What is read as a number is a spelling of the grammar, with the value of the spelling. -/
theorem exists_number_of_readNumber {text rest : Text} {value : Value}
    (h : readNumber text = .ok (value, rest)) :
    ∃ number : NumberText, text = number.written ++ rest ∧ number.value = value ∧
      (number.isInteger = true → number.whole.length ≤ digitLimit) := by
  cases text with
  | nil => cases h
  | cons c more =>
      by_cases hc : c = '-'
      · subst hc
        rw [readNumber_minus] at h
        obtain ⟨number, hnegative, rfl, hvalue, hshort⟩ := exists_number_of_readUnsigned h
        refine ⟨number, ?_, hvalue, hshort⟩
        rw [NumberText.written, if_pos hnegative, List.cons_append]
      · rw [readNumber_digit hc] at h
        obtain ⟨number, hnegative, htext, hvalue, hshort⟩ := exists_number_of_readUnsigned h
        refine ⟨number, ?_, hvalue, hshort⟩
        rw [NumberText.written, if_neg (Bool.eq_false_iff.mp hnegative), htext]

end LogSieve.Json
