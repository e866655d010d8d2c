import LogSieve.Proofs.Number.Literal
import LogSieve.Proofs.Text.Decimal
import LogSieve.Proofs.Text.Parts
import LogSieve.Proofs.Text.Strip
import LogSieve.Text.Integer

/-!
# Numbers that fill a text

A whole text writes a number if it is, apart from blanks around it, a sign or none and
then a decimal or one of the words `inf`, `infinity` and `nan` in any case.  A decimal may
have its point before, among or behind its digits, and single underscores may stand
between two digits.

This reader refuses what does not fit, and it shares nothing with the reader of the number
at the start of a value: it cuts the text at the letter of the exponent and at the point.
What it makes of a decimal without underscores is `ofText?_decimal`.
-/

namespace LogSieve.Number

/-- Whether a character is the letter of an exponent. -/
def isExponentLetter (c : Char) : Bool := c == 'e' || c == 'E'

/-- The digits of a part that may be empty. -/
def digitsOrNone? (text : Text) : Option (List Nat) :=
  if text.isEmpty then some [] else Text.groupedDigits? text

/-- The digits before and behind the point of a whole mantissa. -/
def wholeMantissa? (text : Text) : Option (List Nat × List Nat) :=
  match Text.splitFirst '.' text with
  | none => (Text.groupedDigits? text).map fun whole => (whole, [])
  | some (before, behind) =>
    if before.isEmpty && behind.isEmpty then none
    else do return (← digitsOrNone? before, ← digitsOrNone? behind)

/-- The number behind the letter of an exponent. -/
def wholeExponent? (text : Text) : Option Int :=
  let (sign, unsigned) := sign? text
  (Text.groupedDigits? unsigned).map fun values =>
    let size := Int.ofNat (Text.numberOf 10 values)
    if sign = some true then -size else size

/-- The decimal that a whole text without a sign writes. -/
def Literal.ofText? (negative : Bool) (text : Text) : Option Literal := do
  let (whole, fraction) ← wholeMantissa? (text.takeWhile fun c => !isExponentLetter c)
  match text.dropWhile fun c => !isExponentLetter c with
  | [] => return ⟨negative, whole, fraction, 0⟩
  | _ :: behind => return ⟨negative, whole, fraction, ← wholeExponent? behind⟩

/-- The number that a word stands for. -/
def ofWord? (negative : Bool) (text : Text) : Option Binary64 :=
  let word := text.map Char.toLower
  if word = "inf".toList ∨ word = "infinity".toList then some (.infinite negative)
  else if word = "nan".toList then some .nan
  else none

/-- A text without the blanks around it. -/
def trimmed (text : Text) : Text :=
  ((text.dropWhile Text.padsInteger).reverse.dropWhile Text.padsInteger).reverse

/-- The number that a whole text writes. -/
def ofText? (text : Text) : Option Binary64 :=
  let (sign, unsigned) := sign? (trimmed text)
  let negative := sign == some true
  match Literal.ofText? negative unsigned with
  | some literal => some literal.toBinary64
  | none => ofWord? negative unsigned

example : ofText? " -1_0.5E+1\n".toList = ofText? "-105.".toList := by decide
example : ofText? "1__0".toList = none := by decide

/-! ## Digits -/

/-- Characters that are neither blank nor an underscore nor a point nor a letter. -/
theorem ne_of_isDigit {c : Char} (h : Text.isDigit c = true) :
    c ≠ '_' ∧ c ≠ '.' ∧ isExponentLetter c = false := by
  have hother : ∀ d : Char, Text.isDigit d = false → c ≠ d := by
    rintro d hd rfl
    rw [h] at hd
    cases hd
  refine ⟨hother '_' (by decide), hother '.' (by decide), ?_⟩
  simp [isExponentLetter, hother 'e' (by decide), hother 'E' (by decide)]

theorem excludesSigns_digitValue? : ExcludesSigns Text.digitValue? := by
  constructor <;> decide

/-- Digits without underscores are a group. -/
theorem groupedDigits?_of_areDigits {text : Text} (h : AreDigits Text.digitValue? text) :
    Text.groupedDigits? text = some (text.filterMap Text.digitValue?) := by
  obtain ⟨hne, hdigits⟩ := h
  induction text with
  | nil => exact absurd rfl hne
  | cons c rest ih =>
      obtain ⟨value, hvalue⟩ := Option.isSome_iff_exists.mp (hdigits c List.mem_cons_self)
      cases rest with
      | nil => simp [Text.groupedDigits?, hvalue]
      | cons d more =>
          have hd := hdigits d (List.mem_cons_of_mem c List.mem_cons_self)
          have hmore := ih (List.cons_ne_nil d more)
            fun e he => hdigits e (List.mem_cons_of_mem c he)
          rw [Text.groupedDigits?, hmore]
          · simp [hvalue]
          · exact List.cons_ne_nil d more
          · intro tail htail
            exact (ne_of_isDigit hd).1 (List.cons.inj htail).1

theorem digitsOrNone?_of_forall {text : Text} (h : ∀ c ∈ text, Text.isDigit c = true) :
    digitsOrNone? text = some (text.filterMap Text.digitValue?) := by
  by_cases hne : text = []
  · subst hne
    rfl
  · rw [digitsOrNone?, if_neg (by simpa using hne), groupedDigits?_of_areDigits ⟨hne, h⟩]

/-! ## Mantissas -/

/-- Digits with at most one point before, among or behind them, one digit at least. -/
inductive IsMantissa : Text → Prop
  | whole {digits : Text} (h : AreDigits Text.digitValue? digits) : IsMantissa digits
  | pointed {whole fraction : Text} (hwhole : AreDigits Text.digitValue? whole)
      (hfraction : ∀ c ∈ fraction, Text.isDigit c = true) : IsMantissa (whole ++ '.' :: fraction)
  | fraction {fraction : Text} (h : AreDigits Text.digitValue? fraction) :
      IsMantissa ('.' :: fraction)

theorem IsMantissa.ne_nil {mantissa : Text} (h : IsMantissa mantissa) : mantissa ≠ [] := by
  cases h with
  | whole h => exact h.ne_nil
  | pointed hwhole => simp
  | fraction h => simp

theorem IsMantissa.mem {mantissa : Text} (h : IsMantissa mantissa) {c : Char}
    (hc : c ∈ mantissa) : Text.isDigit c = true ∨ c = '.' := by
  cases h with
  | whole h => exact .inl (h.isDigit c hc)
  | pointed hwhole hfraction =>
      rw [List.mem_append, List.mem_cons] at hc
      rcases hc with hc | rfl | hc
      · exact .inl (hwhole.isDigit c hc)
      · exact .inr rfl
      · exact .inl (hfraction c hc)
  | fraction h =>
      rcases List.mem_cons.mp hc with rfl | hc
      · exact .inr rfl
      · exact .inl (h.isDigit c hc)

theorem stopsDigits_point (rest : Text) : StopsDigits Text.digitValue? ('.' :: rest) := by
  intro c hc
  obtain rfl : '.' = c := by simpa using hc
  decide

theorem point_not_mem {digits : Text} (h : ∀ c ∈ digits, Text.isDigit c = true) :
    '.' ∉ digits := fun hc => (ne_of_isDigit (h '.' hc)).2.1 rfl

section

variable {digits whole fraction : Text}

theorem wholeMantissa?_whole (h : AreDigits Text.digitValue? digits) :
    wholeMantissa? digits = some (digits.filterMap Text.digitValue?, []) := by
  rw [wholeMantissa?, Text.splitFirst_eq_none_of_not_mem (point_not_mem h.isDigit)]
  simp only [groupedDigits?_of_areDigits h, Option.map_some]

theorem wholeMantissa?_pointed (hwhole : AreDigits Text.digitValue? whole)
    (hfraction : ∀ c ∈ fraction, Text.isDigit c = true) :
    wholeMantissa? (whole ++ '.' :: fraction) =
      some (whole.filterMap Text.digitValue?, fraction.filterMap Text.digitValue?) := by
  have hne : whole.isEmpty = false := by simpa using hwhole.ne_nil
  rw [wholeMantissa?, Text.splitFirst_append_cons (point_not_mem hwhole.isDigit)]
  simp only [hne, Bool.false_and, digitsOrNone?_of_forall hwhole.isDigit,
    digitsOrNone?_of_forall hfraction]
  rfl

theorem wholeMantissa?_fraction (h : AreDigits Text.digitValue? fraction) :
    wholeMantissa? ('.' :: fraction) = some ([], fraction.filterMap Text.digitValue?) := by
  have hne : fraction.isEmpty = false := by simpa using h.ne_nil
  have hsplit : Text.splitFirst '.' ('.' :: fraction) = some ([], fraction) :=
    Text.splitFirst_append_cons List.not_mem_nil fraction
  rw [wholeMantissa?, hsplit]
  simp only [hne, Bool.and_false, digitsOrNone?_of_forall h.isDigit]
  rfl

end

theorem IsMantissa.exists_parts {mantissa : Text} (h : IsMantissa mantissa) :
    ∃ whole fraction, wholeMantissa? mantissa = some (whole, fraction) := by
  cases h with
  | whole h => exact ⟨_, _, wholeMantissa?_whole h⟩
  | pointed hwhole hfraction => exact ⟨_, _, wholeMantissa?_pointed hwhole hfraction⟩
  | fraction h => exact ⟨_, _, wholeMantissa?_fraction h⟩

/-! ## Decimals -/

theorem IsMantissa.isExponentLetter_eq {mantissa : Text} (h : IsMantissa mantissa) :
    ∀ c ∈ mantissa, (!isExponentLetter c) = true := by
  intro c hc
  rcases h.mem hc with hdigit | rfl
  · rw [(ne_of_isDigit hdigit).2.2]
    rfl
  · rfl

theorem wholeExponent?_append {sign digits : Text} (hsign : IsSign sign)
    (hdigits : AreDigits Text.digitValue? digits) :
    wholeExponent? (sign ++ digits) = some (signedValue Text.digitValue? sign digits) := by
  have hstops := hdigits.stopsSign excludesSigns_digitValue? []
  rw [List.append_nil] at hstops
  simp only [wholeExponent?, sign?_append hsign hstops, groupedDigits?_of_areDigits hdigits,
    Option.map_some, signedValue]

/-- The decimal of a mantissa and an exponent. -/
theorem Literal.ofText?_append {mantissa exponent : Text} (hmantissa : IsMantissa mantissa)
    {whole fraction} (hparts : wholeMantissa? mantissa = some (whole, fraction))
    (hexponent : IsOptionalExponent Text.digitValue? exponent) (negative : Bool) :
    ofText? negative (mantissa ++ exponent) =
      some ⟨negative, whole, fraction, exponentValue Text.digitValue? exponent⟩ := by
  have hletters := hmantissa.isExponentLetter_eq
  rcases hexponent with rfl | ⟨hletter, hsign, hdigits⟩
  · rw [List.append_nil, ofText?, List.takeWhile_eq_self_iff.mpr hletters,
      List.dropWhile_eq_nil_iff.mpr hletters, hparts]
    rfl
  · rename_i letter sign digits
    have hstop : ¬ (!isExponentLetter letter) = true := by
      rcases hletter with rfl | rfl <;> decide
    have htake : (mantissa ++ letter :: (sign ++ digits)).takeWhile
        (fun c => !isExponentLetter c) = mantissa := by
      rw [List.takeWhile_append_of_pos hletters,
        List.takeWhile_cons_of_neg (p := fun c => !isExponentLetter c) hstop, List.append_nil]
    have hdrop : (mantissa ++ letter :: (sign ++ digits)).dropWhile
        (fun c => !isExponentLetter c) = letter :: (sign ++ digits) := by
      rw [List.dropWhile_append_of_pos hletters,
        List.dropWhile_cons_of_neg (p := fun c => !isExponentLetter c) hstop]
    rw [ofText?, htake, hdrop, hparts,
      exponentValue_cons excludesSigns_digitValue? hletter hsign hdigits]
    simp only [Option.bind_eq_bind, Option.bind_some, wholeExponent?_append hsign hdigits]
    rfl

/-! ## Numerals -/

/-- The word for the infinity. -/
def infinityWord : Text := "Infinity".toList

/-- What a numeral is without its sign. -/
inductive IsMagnitude : Text → Prop
  | infinity : IsMagnitude infinityWord
  | decimal {mantissa exponent : Text} (hmantissa : IsMantissa mantissa)
      (hexponent : IsOptionalExponent Text.digitValue? exponent) : IsMagnitude (mantissa ++ exponent)

/-- A sign or none, and then `Infinity` or a mantissa with an exponent or none. -/
inductive IsNumeral : Text → Prop
  | intro {sign magnitude : Text} (hsign : IsSign sign) (hmagnitude : IsMagnitude magnitude) :
      IsNumeral (sign ++ magnitude)

/-- What the characters of numerals have in common: none is blank. -/
theorem isBlank_of_isDigit {c : Char} (h : Text.isDigit c = true) : Text.isBlank c = false := by
  -- Below 128 the characters are gone through one by one, beyond that the ranges of blanks are.
  have hascii : ∀ n < 128, Text.isDigit (Char.ofNat n) = true →
      Text.isBlank (Char.ofNat n) = false := by
    decide
  have hbeyond : ∀ range ∈ Text.blankRanges, ∀ n ∈ List.range' range.1 (range.2 + 1 - range.1),
      Text.digitRanges.find? n = none := by
    decide +kernel
  by_cases hc : c.toNat < 128
  · have hread := hascii c.toNat hc
    rw [Char.ofNat_toNat] at hread
    exact hread h
  · rw [Text.isBlank, if_neg hc, Text.Ranges.holds, ← Bool.not_eq_true, Option.isSome_iff_exists]
    rintro ⟨⟨first, last⟩, hfind⟩
    obtain ⟨hmem, hfirst, hlast⟩ := Text.Ranges.find?_eq_some hfind
    have hnone := hbeyond _ hmem c.toNat (List.mem_range'_1.mpr ⟨hfirst, by simp only; omega⟩)
    simp [Text.isDigit, Text.digitValue?, hc, hnone] at h

theorem IsSign.isBlank_eq_false {sign : Text} (h : IsSign sign) :
    ∀ c ∈ sign, Text.isBlank c = false := by
  cases h with
  | nothing => exact List.forall_mem_nil _
  | plus => exact List.forall_mem_singleton.mpr (by decide)
  | minus => exact List.forall_mem_singleton.mpr (by decide)

theorem IsMantissa.isBlank_eq_false {mantissa : Text} (h : IsMantissa mantissa) :
    ∀ c ∈ mantissa, Text.isBlank c = false := by
  intro c hc
  rcases h.mem hc with hdigit | rfl
  · exact isBlank_of_isDigit hdigit
  · decide

theorem IsOptionalExponent.isBlank_eq_false {exponent : Text}
    (h : IsOptionalExponent Text.digitValue? exponent) : ∀ c ∈ exponent, Text.isBlank c = false := by
  intro c hc
  rcases h with rfl | ⟨hletter, hsign, hdigits⟩
  · cases hc
  · rw [List.mem_cons, List.mem_append] at hc
    rcases hc with rfl | hc | hc
    · rcases hletter with rfl | rfl <;> decide
    · exact hsign.isBlank_eq_false c hc
    · exact isBlank_of_isDigit (hdigits.isDigit c hc)

theorem IsNumeral.isBlank_eq_false {piece : Text} (h : IsNumeral piece) :
    ∀ c ∈ piece, Text.isBlank c = false := by
  obtain ⟨hsign, hmagnitude⟩ := h
  intro c hc
  rw [List.mem_append] at hc
  rcases hc with hc | hc
  · exact hsign.isBlank_eq_false c hc
  · cases hmagnitude with
    | infinity =>
        have hall : infinityWord.all (fun c => !Text.isBlank c) = true := by decide
        simpa using List.all_eq_true.mp hall c hc
    | decimal hmantissa hexponent =>
        rcases List.mem_append.mp hc with hc | hc
        · exact hmantissa.isBlank_eq_false c hc
        · exact hexponent.isBlank_eq_false c hc

theorem IsMagnitude.ne_nil {magnitude : Text} (h : IsMagnitude magnitude) : magnitude ≠ [] := by
  cases h with
  | infinity => decide
  | decimal hmantissa => exact List.append_ne_nil_of_left_ne_nil hmantissa.ne_nil _

/-- Nothing is stripped in front of a numeral. -/
theorem IsNumeral.stripStart_append {piece : Text} (h : IsNumeral piece) (rest : Text) :
    Text.stripStart (piece ++ rest) = piece ++ rest := by
  have hne : piece ≠ [] := by
    obtain ⟨-, hmagnitude⟩ := h
    exact List.append_ne_nil_of_right_ne_nil _ hmagnitude.ne_nil
  apply Text.stripStart_eq_self
  intro c hc
  rw [List.head?_append_of_ne_nil _ hne] at hc
  exact h.isBlank_eq_false c (List.mem_of_head? hc)

/-- Nothing is trimmed off a text without blanks. -/
theorem trimmed_eq_self {text : Text} (h : ∀ c ∈ text, Text.isBlank c = false) :
    trimmed text = text := by
  have hdrop : ∀ t : Text, (∀ c ∈ t, Text.isBlank c = false) → t.dropWhile Text.padsInteger = t := by
    intro t ht
    cases t with
    | nil => rfl
    | cons c rest => simp [Text.padsInteger, ht c List.mem_cons_self]
  rw [trimmed, hdrop text h, hdrop _ (by simpa using h), List.reverse_reverse]

/-- A magnitude starts with no sign. -/
theorem IsMagnitude.stopsSign {magnitude : Text} (h : IsMagnitude magnitude) (rest : Text) :
    StopsSign (magnitude ++ rest) := by
  have hdigits : ∀ {digits : Text}, AreDigits Text.digitValue? digits → ∀ more,
      StopsSign (digits ++ more) :=
    fun h more => h.stopsSign excludesSigns_digitValue? more
  have hpoint : ∀ more : Text, StopsSign ('.' :: more) := by
    intro more c hc
    obtain rfl : '.' = c := by simpa using hc
    decide
  cases h with
  | infinity =>
      have hword : infinityWord = 'I' :: "nfinity".toList := by decide
      intro c hc
      rw [hword] at hc
      obtain rfl : 'I' = c := Option.some.inj hc
      decide
  | decimal hmantissa hexponent =>
      cases hmantissa with
      | whole h =>
          rw [List.append_assoc]
          exact hdigits h _
      | pointed hwhole =>
          rw [List.append_assoc, List.append_assoc]
          exact hdigits hwhole _
      | fraction h => exact hpoint _

/-- A numeral with a mantissa stands for the decimal that it writes. -/
theorem ofText?_decimal {sign mantissa exponent : Text} (hsign : IsSign sign)
    (hmantissa : IsMantissa mantissa) {whole fraction}
    (hparts : wholeMantissa? mantissa = some (whole, fraction))
    (hexponent : IsOptionalExponent Text.digitValue? exponent) :
    ofText? (sign ++ (mantissa ++ exponent)) =
      some (Literal.toBinary64
        ⟨(sign? sign).1 == some true, whole, fraction, exponentValue Text.digitValue? exponent⟩) := by
  have hmagnitude := IsMagnitude.decimal hmantissa hexponent
  have hstops := hmagnitude.stopsSign []
  rw [List.append_nil] at hstops
  simp only [ofText?, trimmed_eq_self (IsNumeral.intro hsign hmagnitude).isBlank_eq_false,
    sign?_append hsign hstops, Literal.ofText?_append hmantissa hparts hexponent]

theorem ofText?_infinity {sign : Text} (hsign : IsSign sign) :
    ofText? (sign ++ infinityWord) = some (.infinite ((sign? sign).1 == some true)) := by
  cases hsign <;> decide

/-- Numerals are numbers. -/
theorem IsNumeral.exists_ofText? {piece : Text} (h : IsNumeral piece) :
    ∃ number, ofText? piece = some number := by
  obtain ⟨hsign, hmagnitude⟩ := h
  cases hmagnitude with
  | infinity => exact ⟨_, ofText?_infinity hsign⟩
  | decimal hmantissa hexponent =>
      obtain ⟨whole, fraction, hparts⟩ := hmantissa.exists_parts
      exact ⟨_, ofText?_decimal hsign hmantissa hparts hexponent⟩

/-! ## Integers -/

theorem areDigits_ofNat (n : Nat) : AreDigits Text.digitValue? (Text.ofNat n) := by
  refine ⟨Nat.toDigits_ne_nil, fun c hc => ?_⟩
  rw [Text.digitValue?_of_isAsciiDigit (Text.isAsciiDigit_of_mem_ofNat hc)]
  rfl

/-- The digits that are written for a number have its value. -/
theorem numberOf_filterMap_ofNat (n : Nat) :
    Text.numberOf 10 ((Text.ofNat n).filterMap Text.digitValue?) = n := by
  have hvalues : (Text.ofNat n).filterMap Text.digitValue? = Text.digitValues (Text.ofNat n) := by
    rw [Text.digitValues, ← List.filterMap_eq_map]
    exact List.filterMap_congr fun c hc =>
      Text.digitValue?_of_isAsciiDigit (Text.isAsciiDigit_of_mem_ofNat hc)
  rw [hvalues, Text.numberOf_ofNat]

/-- An integer is written with a sign just if it is negative. -/
theorem exists_ofInt_eq (n : Int) :
    ∃ sign, IsSign sign ∧ Text.ofInt n = sign ++ Text.ofNat n.natAbs ∧
      ((sign? sign).1 == some true) = decide (n < 0) := by
  by_cases hn : n < 0
  · refine ⟨['-'], .minus, by rw [Text.ofInt, if_pos hn]; rfl, ?_⟩
    rw [decide_eq_true hn]
    rfl
  · refine ⟨[], .nothing, by rw [Text.ofInt, if_neg hn]; rfl, ?_⟩
    rw [decide_eq_false hn]
    rfl

theorem isNumeral_ofInt (n : Int) : IsNumeral (Text.ofInt n) := by
  obtain ⟨sign, hsign, heq, -⟩ := exists_ofInt_eq n
  have hmagnitude := IsMagnitude.decimal (.whole (areDigits_ofNat n.natAbs)) (.inl rfl)
  rw [List.append_nil] at hmagnitude
  rw [heq]
  exact .intro hsign hmagnitude

end LogSieve.Number
