import LogSieve.Proofs.Number.Whole
import LogSieve.Query.LeadingNumber

/-!
# The longest numeral

The reader of the number at the start of a value takes sign, mantissa and exponent one
after another, each as far as it goes.  Nothing is gained by stopping earlier: of all
numerals that a text begins with, it takes the longest (`numeral?_spec`).  The reader of
whole texts makes the same number of that piece, so the two grammars agree.

Each part has a lemma of its own.  It says what the reader takes, and that any other such
part at the start of the text is a prefix of it; the longest numeral is put together from
the longest parts, since no character of a mantissa is the letter of an exponent.
-/

namespace LogSieve.Query

open Number

/-- The longest piece of a kind that a text begins with. -/
structure IsLongest (kind : Text → Prop) (piece text : Text) : Prop where
  begins : piece <+: text
  isKind : kind piece
  longest : ∀ other, other <+: text → kind other → other.length ≤ piece.length

/-- There is only one longest piece. -/
theorem IsLongest.unique {kind : Text → Prop} {piece other text : Text}
    (h : IsLongest kind piece text) (hother : IsLongest kind other text) : piece = other := by
  have hle := hother.longest piece h.begins h.isKind
  have hge := h.longest other hother.begins hother.isKind
  exact (List.prefix_of_prefix_length_le h.begins hother.begins hle).eq_of_length
    (Nat.le_antisymm hle hge)

/-! ## The longest mantissa -/

/-- What a mantissa does not go on with: no digit, and no point unless it has one already. -/
def StopsMantissa (mantissa rest : Text) : Prop :=
  ∀ c ∈ rest.head?, Text.isDigit c = false ∧ (c = '.' → '.' ∈ mantissa)

theorem StopsMantissa.stopsDigits {mantissa rest : Text} (h : StopsMantissa mantissa rest) :
    StopsDigits Text.digitValue? rest := by
  intro c hc
  have hdigit := (h c hc).1
  rwa [Text.isDigit, ← Bool.not_eq_true, Option.not_isSome_iff_eq_none] at hdigit

theorem StopsMantissa.of_stopsDigits {mantissa rest : Text}
    (h : StopsDigits Text.digitValue? rest) (hpoint : ∀ c ∈ rest.head?, c = '.' → '.' ∈ mantissa) :
    StopsMantissa mantissa rest := by
  intro c hc
  exact ⟨by rw [Text.isDigit, h c hc, Option.isSome_none], hpoint c hc⟩

theorem mantissa?_append {mantissa rest : Text} (h : IsMantissa mantissa)
    (hrest : StopsMantissa mantissa rest) {whole fraction}
    (hparts : wholeMantissa? mantissa = some (whole, fraction)) :
    mantissa? (mantissa ++ rest) = some (whole, fraction, rest) := by
  have hstops := hrest.stopsDigits
  cases h with
  | whole h =>
      rw [wholeMantissa?_whole h] at hparts
      obtain ⟨rfl, rfl⟩ := Prod.mk.inj (Option.some.inj hparts)
      obtain ⟨value, values, hvalues⟩ := List.exists_cons_of_ne_nil h.filterMap_ne_nil
      have hnopoint : ∀ behind, rest ≠ '.' :: behind := by
        rintro behind rfl
        exact point_not_mem h.isDigit ((hrest '.' rfl).2 rfl)
      rw [mantissa?, digitRun_append h.isDigit hstops, hvalues]
      split
      · cases (Prod.mk.inj ‹_›).1
      · cases (Prod.mk.inj ‹_›).1
      · exact absurd (Prod.mk.inj ‹_›).2 (hnopoint _)
      · obtain ⟨rfl, rfl⟩ := Prod.mk.inj ‹_›
        rfl
  | @pointed before behind hwhole hfraction =>
      rw [wholeMantissa?_pointed hwhole hfraction] at hparts
      obtain ⟨rfl, rfl⟩ := Prod.mk.inj (Option.some.inj hparts)
      obtain ⟨value, values, hvalues⟩ := List.exists_cons_of_ne_nil hwhole.filterMap_ne_nil
      rw [List.append_assoc, List.cons_append, mantissa?,
        digitRun_append hwhole.isDigit (stopsDigits_point _), hvalues]
      simp only [digitRun_append hfraction hstops]
  | @fraction behind h =>
      rw [wholeMantissa?_fraction h] at hparts
      obtain ⟨rfl, rfl⟩ := Prod.mk.inj (Option.some.inj hparts)
      obtain ⟨value, values, hvalues⟩ := List.exists_cons_of_ne_nil h.filterMap_ne_nil
      rw [List.cons_append, mantissa?, digitRun_eq_nil (stopsDigits_point _)]
      simp only [digitRun_append h.isDigit hstops, hvalues]

/-- Where a mantissa starts, the reader finds one. -/
theorem mantissa?_ne_none {mantissa : Text} (h : IsMantissa mantissa) (rest : Text) :
    mantissa? (mantissa ++ rest) ≠ none := by
  have hdigits : ∀ {digits : Text}, AreDigits Text.digitValue? digits → ∀ more,
      mantissa? (digits ++ more) ≠ none := by
    intro digits hdigits more
    obtain ⟨value, values, after, hrun⟩ := hdigits.exists_digitRun more
    rw [mantissa?, hrun]
    split
    · cases (Prod.mk.inj ‹_›).1
    · cases (Prod.mk.inj ‹_›).1
    · exact Option.some_ne_none _
    · exact Option.some_ne_none _
  cases h with
  | whole h => exact hdigits h rest
  | pointed hwhole =>
      rw [List.append_assoc]
      exact hdigits hwhole _
  | fraction h =>
      obtain ⟨value, values, after, hrun⟩ := h.exists_digitRun rest
      rw [List.cons_append, mantissa?, digitRun_eq_nil (stopsDigits_point _)]
      simp only [hrun]
      exact Option.some_ne_none _

/-- A text starts with a mantissa that ends where it has to, or the reader finds none. -/
theorem exists_mantissa (text : Text) :
    mantissa? text = none ∨
      ∃ mantissa rest, text = mantissa ++ rest ∧ IsMantissa mantissa ∧
        StopsMantissa mantissa rest := by
  obtain ⟨digits, rest, hsplit, hdigits, hstops, hrun⟩ := exists_digitRun Text.digitValue? text
  -- The form depends on whether there are digits, a point behind them, and digits behind that.
  by_cases hpoint : ∃ behind, rest = '.' :: behind
  · obtain ⟨behind, rfl⟩ := hpoint
    obtain ⟨fraction, after, rfl, hfraction, hafter, hread⟩ :=
      exists_digitRun Text.digitValue? behind
    by_cases hne : digits = []
    · subst hne
      by_cases hfractionNe : fraction = []
      · left
        subst hfractionNe
        rw [mantissa?, hrun]
        simp only [List.filterMap_nil, hread]
      · right
        refine ⟨'.' :: fraction, after, hsplit, .fraction ⟨hfractionNe, hfraction⟩, ?_⟩
        exact .of_stopsDigits hafter fun _ _ _ => List.mem_cons_self
    · right
      refine ⟨digits ++ '.' :: fraction, after, ?_, .pointed ⟨hne, hdigits⟩ hfraction, ?_⟩
      · rw [hsplit, List.append_assoc, List.cons_append]
      · exact .of_stopsDigits hafter fun _ _ _ => by simp
  · have hnopoint : ∀ c ∈ rest.head?, c ≠ '.' := by
      rintro c hc rfl
      obtain ⟨behind, hbehind⟩ := List.head?_eq_some_iff.mp hc
      exact hpoint ⟨behind, hbehind⟩
    by_cases hne : digits = []
    · left
      subst hne
      rw [mantissa?, hrun, List.filterMap_nil]
      split
      · exact absurd ⟨_, (Prod.mk.inj ‹_›).2⟩ hpoint
      · rfl
      · rename_i hnot hread
        exact absurd (Prod.mk.inj hread).1.symm (by simpa using hnot)
      · rename_i hnot _ hread
        obtain ⟨rfl, -⟩ := Prod.mk.inj hread
        exact (hnot rfl).elim
    · right
      refine ⟨digits, rest, hsplit, .whole ⟨hne, hdigits⟩, ?_⟩
      exact .of_stopsDigits hstops fun c hc hcpoint => absurd hcpoint (hnopoint c hc)

/-- A mantissa has one point at most. -/
theorem count_point_le {mantissa : Text} (h : IsMantissa mantissa) :
    mantissa.count '.' ≤ 1 := by
  have hzero : ∀ {digits : Text}, (∀ c ∈ digits, Text.isDigit c = true) →
      digits.count '.' = 0 :=
    fun hdigits => List.count_eq_zero.mpr (point_not_mem hdigits)
  cases h with
  | whole h => simp [hzero h.isDigit]
  | pointed hwhole hfraction => simp [hzero hwhole.isDigit, hzero hfraction]
  | fraction h => simp [hzero h.isDigit]

/-- Every mantissa at the start of the text is within the one that ends where it has to. -/
theorem StopsMantissa.isPrefix {mantissa rest other : Text} (h : StopsMantissa mantissa rest)
    (hother : IsMantissa other) (hbegins : other <+: mantissa ++ rest) : other <+: mantissa := by
  rcases within_or_beyond hbegins with hwithin | ⟨c, more, rfl, hc⟩
  · exact hwithin
  · -- A longer one goes on with the next character, a digit or a second point.
    obtain ⟨hdigit, hpoint⟩ := h c hc
    exfalso
    rcases hother.mem (List.mem_append_right mantissa List.mem_cons_self) with hnext | rfl
    · rw [hdigit] at hnext
      cases hnext
    · have hcount := count_point_le hother
      have hpositive := List.count_pos_iff.mpr (hpoint rfl)
      rw [List.count_append, List.count_cons_self] at hcount
      omega

/-! ## The longest exponent -/

/-- What the reader takes of an exponent, its value, and that no other exponent is longer. -/
theorem exists_optionalExponent (text : Text) :
    ∃ exponent rest, text = exponent ++ rest ∧ IsOptionalExponent Text.digitValue? exponent ∧
      (exponent? Text.digitValue? text).getD (0, text) =
        (exponentValue Text.digitValue? exponent, rest) ∧
      ∀ other, other <+: text → IsExponent Text.digitValue? other → other <+: exponent := by
  rcases exists_exponent Text.digitValue? text with
    hnone | ⟨letter, sign, digits, rest, htext, hletter, hsign, hdigits, hrest⟩
  · refine ⟨[], text, rfl, .inl rfl, by rw [hnone]; rfl, ?_⟩
    rintro _ ⟨tail, rfl⟩ ⟨hletter, hsign, hdigits⟩
    rename_i letter sign digits
    -- The digits go on up to some place, and the reader would have read them.
    obtain ⟨more, rest, rfl, hmore, hrest, -⟩ := exists_digitRun Text.digitValue? tail
    have hall : AreDigits Text.digitValue? (digits ++ more) :=
      ⟨by simp [hdigits.ne_nil], List.forall_mem_append.mpr ⟨hdigits.isDigit, hmore⟩⟩
    have hread := exponent?_append excludesSigns_digitValue? hletter hsign hall hrest
    simp only [List.cons_append, List.append_assoc] at hnone hread
    rw [hread] at hnone
    cases hnone
  · have hread := exponent?_append excludesSigns_digitValue? hletter hsign hdigits hrest
    refine ⟨letter :: (sign ++ digits), rest, ?_, .inr (.intro hletter hsign hdigits), ?_, ?_⟩
    · rw [htext, List.cons_append, List.append_assoc]
    · rw [htext, hread, exponentValue_cons excludesSigns_digitValue? hletter hsign hdigits,
        Option.getD_some]
    · rintro _ ⟨tail, htail⟩ ⟨-, hotherSign, hotherDigits⟩
      rw [htext, List.cons_append, List.append_assoc] at htail
      obtain ⟨rfl, hbehind⟩ := List.cons.inj htail
      obtain ⟨rfl, hruns⟩ := hotherSign.append_inj hsign
        (hotherDigits.stopsSign excludesSigns_digitValue? _)
        (hdigits.stopsSign excludesSigns_digitValue? _) hbehind
      obtain ⟨more, hmore⟩ := hrest.isPrefix hotherDigits.isDigit ⟨_, hruns⟩
      exact ⟨more, by rw [List.cons_append, List.append_assoc, hmore]⟩

/-! ## The longest numeral -/

/-- The longest decimal consists of the longest mantissa and the longest exponent behind it. -/
theorem length_le_of_decimal {mantissa exponent rest : Text}
    (hstops : StopsMantissa mantissa (exponent ++ rest)) (hmantissa : IsMantissa mantissa)
    (hlongest : ∀ other, other <+: exponent ++ rest → IsExponent Text.digitValue? other →
      other <+: exponent)
    {otherMantissa otherExponent : Text} (hotherMantissa : IsMantissa otherMantissa)
    (hotherExponent : IsOptionalExponent Text.digitValue? otherExponent)
    (hbegins : otherMantissa ++ otherExponent <+: mantissa ++ (exponent ++ rest)) :
    (otherMantissa ++ otherExponent).length ≤ (mantissa ++ exponent).length := by
  have hwithin := hstops.isPrefix hotherMantissa ((List.prefix_append _ _).trans hbegins)
  rw [List.length_append, List.length_append]
  rcases hotherExponent with rfl | hexponent
  · have hle := hwithin.length_le
    simp only [List.length_nil]
    omega
  · obtain ⟨more, rfl⟩ := hwithin
    have hbehind : otherExponent <+: more ++ (exponent ++ rest) := by
      rw [List.append_assoc] at hbegins
      exact (List.prefix_append_right_inj otherMantissa).mp hbegins
    cases more with
    | nil =>
        have hle := (hlongest otherExponent hbehind hexponent).length_le
        simp only [List.append_nil]
        omega
    | cons c more =>
        -- The letter of the exponent would stand within the longest mantissa.
        exfalso
        obtain ⟨hletter, -, -⟩ := hexponent
        obtain ⟨tail, htail⟩ := hbehind
        obtain ⟨rfl, -⟩ := List.cons.inj htail
        have hnot := hmantissa.isExponentLetter_eq _ (List.mem_append_right _ List.mem_cons_self)
        rcases hletter with rfl | rfl <;> cases hnot

/-- No mantissa starts as the infinity does. -/
theorem infinityWord_not_begins {mantissa : Text} (h : IsMantissa mantissa) (rest : Text) :
    ¬ infinityWord <+: mantissa ++ rest := by
  have hword : infinityWord = 'I' :: "nfinity".toList := by decide
  obtain ⟨c, more, rfl⟩ := List.exists_cons_of_ne_nil h.ne_nil
  rintro ⟨tail, htail⟩
  rw [hword] at htail
  obtain ⟨rfl, -⟩ := List.cons.inj htail
  rcases h.mem List.mem_cons_self with hdigit | hpoint
  · exact absurd hdigit (by decide)
  · exact absurd hpoint (by decide)

/-- The reader behind the sign. -/
def magnitude? (negative : Bool) (unsigned : Text) : Option (Numeral × Text) :=
  if infinityWord.isPrefixOf unsigned then
    some (.infinity negative, unsigned.drop infinityWord.length)
  else
    (mantissa? unsigned).map fun (whole, fraction, rest) =>
      let (exponent, after) := (exponent? Text.digitValue? rest).getD (0, rest)
      (.decimal ⟨negative, whole, fraction, exponent⟩, after)

theorem numeral?_eq (text : Text) :
    numeral? text = magnitude? ((sign? text).1 == some true) (sign? text).2 := by
  simp only [numeral?, magnitude?]
  cases mantissa? (sign? text).2 with
  | none => rfl
  | some parts =>
      obtain ⟨whole, fraction, rest⟩ := parts
      simp only [Option.map_some]
      cases exponent? Text.digitValue? rest <;> rfl

/-- What the reader makes of a mantissa that ends where it has to. -/
theorem magnitude?_append (negative : Bool) {mantissa behind : Text} (h : IsMantissa mantissa)
    (hstops : StopsMantissa mantissa behind) {whole fraction}
    (hparts : wholeMantissa? mantissa = some (whole, fraction)) {exponent rest}
    (hread : (exponent? Text.digitValue? behind).getD (0, behind) = (exponent, rest)) :
    magnitude? negative (mantissa ++ behind) =
      some (.decimal ⟨negative, whole, fraction, exponent⟩, rest) := by
  have hword : ¬ infinityWord.isPrefixOf (mantissa ++ behind) = true :=
    fun hword => infinityWord_not_begins h _ (List.isPrefixOf_iff_prefix.mp hword)
  rw [magnitude?, if_neg hword, mantissa?_append h hstops hparts, Option.map_some]
  simp only [hread]

/-- What the reader behind the sign takes is the longest, and it is read as it should be. -/
theorem magnitude?_spec (negative : Bool) (text : Text) :
    (magnitude? negative text = none ∧ ∀ piece, piece <+: text → ¬ IsMagnitude piece) ∨
      ∃ piece numeral rest, magnitude? negative text = some (numeral, rest) ∧
        IsLongest IsMagnitude piece text ∧
        ∀ sign, IsSign sign → ((sign? sign).1 == some true) = negative →
          ofText? (sign ++ piece) = some numeral.toBinary64 := by
  by_cases hword : infinityWord.isPrefixOf text
  · right
    refine ⟨infinityWord, .infinity negative, text.drop infinityWord.length, ?_, ?_, ?_⟩
    · rw [magnitude?, if_pos hword]
    · have hbegins := List.isPrefixOf_iff_prefix.mp hword
      refine ⟨hbegins, .infinity, ?_⟩
      rintro other hother (_ | ⟨hmantissa, hexponent⟩)
      · exact Nat.le_refl _
      · exfalso
        obtain ⟨tail, rfl⟩ := hother
        rw [List.append_assoc] at hbegins
        exact infinityWord_not_begins hmantissa _ hbegins
    · rintro sign hsign rfl
      exact ofText?_infinity hsign
  · rcases exists_mantissa text with hnone | ⟨mantissa, behind, rfl, hmantissa, hstops⟩
    · left
      rw [magnitude?, if_neg hword, hnone]
      refine ⟨rfl, ?_⟩
      rintro _ ⟨tail, rfl⟩ (_ | ⟨hmantissa, hexponent⟩)
      · exact hword (List.isPrefixOf_iff_prefix.mpr (List.prefix_append _ _))
      · rw [List.append_assoc] at hnone
        exact mantissa?_ne_none hmantissa _ hnone
    · right
      obtain ⟨exponent, rest, rfl, hexponent, hread, hlongest⟩ := exists_optionalExponent behind
      obtain ⟨whole, fraction, hparts⟩ := hmantissa.exists_parts
      refine ⟨mantissa ++ exponent,
        .decimal ⟨negative, whole, fraction, exponentValue Text.digitValue? exponent⟩,
        rest, ?_, ⟨⟨rest, List.append_assoc ..⟩, .decimal hmantissa hexponent, ?_⟩, ?_⟩
      · exact magnitude?_append negative hmantissa hstops hparts hread
      · rintro other hother (_ | ⟨hotherMantissa, hotherExponent⟩)
        · exact absurd hother (infinityWord_not_begins hmantissa _)
        · exact length_le_of_decimal hstops hmantissa hlongest hotherMantissa hotherExponent hother
      · rintro sign hsign rfl
        exact ofText?_decimal hsign hmantissa hparts hexponent

/-- What the reader takes is the longest numeral that the text starts with, and the number of
that piece is the one that it reads. -/
theorem numeral?_spec (text : Text) :
    (numeral? text = none ∧ ∀ piece, piece <+: text → ¬ IsNumeral piece) ∨
      ∃ piece numeral rest, numeral? text = some (numeral, rest) ∧
        IsLongest IsNumeral piece text ∧ ofText? piece = some numeral.toBinary64 := by
  obtain ⟨sign, hsign, htext, hread⟩ := exists_sign text
  -- The sign of a numeral at the start of the text is the sign that is read.
  have hpieces : ∀ {other magnitude}, IsSign other → IsMagnitude magnitude →
      other ++ magnitude <+: text → other = sign ∧ magnitude <+: (sign? text).2 := by
    rintro other magnitude hother hmagnitude ⟨tail, rfl⟩
    have hparts := sign?_append hother (hmagnitude.stopsSign tail)
    rw [← List.append_assoc] at hparts
    rw [hparts] at htext ⊢
    refine ⟨?_, List.prefix_append _ _⟩
    rw [List.append_assoc] at htext
    exact List.append_cancel_right htext
  rw [numeral?_eq]
  rcases magnitude?_spec ((sign? text).1 == some true) (sign? text).2 with
    ⟨hnone, hnot⟩ | ⟨piece, numeral, rest, hsome, hlongest, hvalue⟩
  · left
    refine ⟨hnone, ?_⟩
    rintro _ hbegins ⟨hother, hmagnitude⟩
    exact hnot _ (hpieces hother hmagnitude hbegins).2 hmagnitude
  · right
    refine ⟨sign ++ piece, numeral, rest, hsome, ⟨?_, .intro hsign hlongest.isKind, ?_⟩, ?_⟩
    · rw [htext]
      exact (List.prefix_append_right_inj sign).mpr hlongest.begins
    · rintro _ hbegins ⟨hother, hmagnitude⟩
      obtain ⟨rfl, hwithin⟩ := hpieces hother hmagnitude hbegins
      have hle := hlongest.longest _ hwithin hmagnitude
      rw [List.length_append, List.length_append]
      omega
    · exact hvalue sign hsign (by rw [hread])

/-- There is no number at the start of a value just if no numeral stands there. -/
theorem leadingNumber?_eq_none_iff {value : Text} :
    leadingNumber? value = none ↔ ∀ piece, piece <+: Text.stripStart value → ¬ IsNumeral piece := by
  rcases numeral?_spec (Text.stripStart value) with
    ⟨hnone, hnot⟩ | ⟨piece, numeral, rest, hsome, hlongest, -⟩
  · rw [leadingNumber?, hnone]
    exact iff_of_true rfl hnot
  · rw [leadingNumber?, hsome]
    exact iff_of_false (Option.some_ne_none _)
      fun hnot => hnot piece hlongest.begins hlongest.isKind

/-- A value that begins with a numeral has a number. -/
theorem leadingNumber?_append_ne_none {piece : Text} (h : IsNumeral piece) (rest : Text) :
    leadingNumber? (piece ++ rest) ≠ none := by
  rw [ne_eq, leadingNumber?_eq_none_iff, h.stripStart_append]
  exact fun hnot => hnot piece (List.prefix_append piece rest) h

/-- The number at the start of a value is that of the longest numeral behind the blanks.  There is
none just if no numeral stands there, and every numeral has a number. -/
theorem leadingNumber?_eq_longest (value : Text) :
    (leadingNumber? value = none ↔
        ∀ piece, piece <+: Text.stripStart value → ¬ IsNumeral piece) ∧
      (∀ number, leadingNumber? value = some number ↔
        ∃ piece, IsLongest IsNumeral piece (Text.stripStart value) ∧
          ofText? piece = some number) ∧
      ∀ piece, IsNumeral piece → ∃ number, ofText? piece = some number := by
  refine ⟨leadingNumber?_eq_none_iff, fun number => ?_, fun piece h => h.exists_ofText?⟩
  rcases numeral?_spec (Text.stripStart value) with
    ⟨hnone, hnot⟩ | ⟨piece, numeral, rest, hsome, hlongest, hvalue⟩
  · rw [leadingNumber?, hnone]
    refine iff_of_false (Option.some_ne_none _).symm ?_
    rintro ⟨piece, hlongest, -⟩
    exact hnot piece hlongest.begins hlongest.isKind
  · rw [leadingNumber?, hsome, Option.map_some]
    constructor
    · intro hnumber
      exact ⟨piece, hlongest, hvalue.trans hnumber⟩
    · rintro ⟨other, hother, hnumber⟩
      obtain rfl := hlongest.unique hother
      exact hvalue.symm.trans hnumber

end LogSieve.Query
