import LogSieve.Number.Literal
import Mathlib.Data.List.TakeWhile

/-!
# The pieces of a literal

Each reader of a piece takes as much of a text as it can.  What it has taken is given
back here as a text of its own, with a condition on the next character that says why the
reader stopped there: no digit behind a run of digits, no sign behind a sign.  All of it
holds for any class of digits, as the readers do.
-/

namespace LogSieve.Number

/-- A sign or nothing. -/
inductive IsSign : List Char → Prop
  | nothing : IsSign []
  | plus : IsSign ['+']
  | minus : IsSign ['-']

/-- Digits of a class, one at least. -/
structure AreDigits (digit? : Char → Option Nat) (text : List Char) : Prop where
  ne_nil : text ≠ []
  isDigit : ∀ c ∈ text, (digit? c).isSome = true

/-- A letter for exponents, a sign or none, and digits. -/
inductive IsExponent (digit? : Char → Option Nat) : List Char → Prop
  | intro {letter : Char} {sign digits : List Char} (hletter : letter = 'e' ∨ letter = 'E')
      (hsign : IsSign sign) (hdigits : AreDigits digit? digits) :
      IsExponent digit? (letter :: (sign ++ digits))

/-- An exponent or nothing. -/
def IsOptionalExponent (digit? : Char → Option Nat) (exponent : List Char) : Prop :=
  exponent = [] ∨ IsExponent digit? exponent

/-- Digits of a class are no signs. -/
structure ExcludesSigns (digit? : Char → Option Nat) : Prop where
  plus : digit? '+' = none
  minus : digit? '-' = none

/-- A text that does not go on with a digit. -/
def StopsDigits (digit? : Char → Option Nat) (rest : List Char) : Prop :=
  ∀ c ∈ rest.head?, digit? c = none

/-- A text that does not go on with a sign. -/
def StopsSign (rest : List Char) : Prop := ∀ c ∈ rest.head?, c ≠ '+' ∧ c ≠ '-'

theorem stopsDigits_nil (digit? : Char → Option Nat) : StopsDigits digit? [] := by
  intro c hc
  cases hc

/-- What an append begins with is within its first part, or goes on with the first character of the
second one. -/
theorem within_or_beyond {piece rest other : List Char} (h : other <+: piece ++ rest) :
    other <+: piece ∨ ∃ c more, other = piece ++ c :: more ∧ c ∈ rest.head? := by
  rcases List.prefix_or_prefix_of_prefix h (List.prefix_append piece rest) with hwithin | hbeyond
  · exact .inl hwithin
  obtain ⟨more, rfl⟩ := hbeyond
  cases more with
  | nil =>
      rw [List.append_nil]
      exact .inl List.prefix_rfl
  | cons c more =>
      obtain ⟨tail, rfl⟩ := (List.prefix_append_right_inj piece).mp h
      exact .inr ⟨c, more, rfl, rfl⟩

/-! ## Signs -/

theorem sign?_append {sign rest : List Char} (h : IsSign sign) (hrest : StopsSign rest) :
    sign? (sign ++ rest) = ((sign? sign).1, rest) := by
  cases h with
  | nothing =>
      rw [List.nil_append]
      cases rest with
      | nil => rfl
      | cons c more =>
          obtain ⟨hplus, hminus⟩ := hrest c rfl
          unfold sign?
          split
          · exact absurd (List.cons.inj ‹_›).1 hminus
          · exact absurd (List.cons.inj ‹_›).1 hplus
          · rfl
  | plus => rfl
  | minus => rfl

theorem exists_sign (text : List Char) :
    ∃ sign, IsSign sign ∧ text = sign ++ (sign? text).2 ∧ (sign? text).1 = (sign? sign).1 := by
  unfold sign?
  split
  · exact ⟨['-'], .minus, rfl, rfl⟩
  · exact ⟨['+'], .plus, rfl, rfl⟩
  · exact ⟨[], .nothing, rfl, rfl⟩

/-- Two signs in front of texts without one are the same sign if they make the same text. -/
theorem IsSign.append_inj {sign other rest tail : List Char} (hsign : IsSign sign)
    (hother : IsSign other) (hrest : StopsSign rest) (htail : StopsSign tail)
    (h : sign ++ rest = other ++ tail) : sign = other ∧ rest = tail := by
  have hread := congrArg sign? h
  rw [sign?_append hsign hrest, sign?_append hother htail] at hread
  obtain rfl : rest = tail := (Prod.mk.inj hread).2
  exact ⟨List.append_cancel_right h, rfl⟩

/-! ## Runs of digits -/

section

variable {digit? : Char → Option Nat}

/-- A run of digits ends where no digit follows. -/
theorem digitRun_append {digits rest : List Char}
    (hdigits : ∀ c ∈ digits, (digit? c).isSome = true) (hrest : StopsDigits digit? rest) :
    digitRun digit? (digits ++ rest) = (digits.filterMap digit?, rest) := by
  induction digits with
  | nil =>
      cases rest with
      | nil => rfl
      | cons c more =>
          have hc : digit? c = none := hrest c rfl
          simp only [List.nil_append, digitRun, hc]
          rfl
  | cons c more ih =>
      obtain ⟨value, hvalue⟩ := Option.isSome_iff_exists.mp (hdigits c List.mem_cons_self)
      have hmore := ih fun d hd => hdigits d (List.mem_cons_of_mem c hd)
      simp only [List.cons_append, digitRun, hvalue, hmore, List.filterMap_cons]

theorem digitRun_eq_nil {rest : List Char} (h : StopsDigits digit? rest) :
    digitRun digit? rest = ([], rest) :=
  digitRun_append (List.forall_mem_nil _) h

/-- The run of digits at the start of a text, which may be empty. -/
theorem exists_digitRun (digit? : Char → Option Nat) (text : List Char) :
    ∃ digits rest, text = digits ++ rest ∧ (∀ c ∈ digits, (digit? c).isSome = true) ∧
      StopsDigits digit? rest ∧ digitRun digit? text = (digits.filterMap digit?, rest) := by
  have hdigits : ∀ c ∈ text.takeWhile (fun c => (digit? c).isSome), (digit? c).isSome = true := by
    intro c hc
    exact List.mem_takeWhile_imp (p := fun c => (digit? c).isSome) hc
  have hrest : StopsDigits digit? (text.dropWhile fun c => (digit? c).isSome) := by
    intro c hc
    have hnot := List.head?_dropWhile_not (fun c => (digit? c).isSome) text
    rw [Option.mem_def.mp hc] at hnot
    simpa using hnot
  have hrun := digitRun_append hdigits hrest
  rw [List.takeWhile_append_dropWhile] at hrun
  exact ⟨_, _, List.takeWhile_append_dropWhile.symm, hdigits, hrest, hrun⟩

theorem AreDigits.filterMap_ne_nil {digits : List Char} (h : AreDigits digit? digits) :
    digits.filterMap digit? ≠ [] := by
  obtain ⟨c, more, rfl⟩ := List.exists_cons_of_ne_nil h.ne_nil
  obtain ⟨value, hvalue⟩ := Option.isSome_iff_exists.mp (h.isDigit c List.mem_cons_self)
  simp [hvalue]

/-- Every run of digits at the start of a text is within the one that no digit follows. -/
theorem StopsDigits.isPrefix {digits rest other : List Char} (h : StopsDigits digit? rest)
    (hother : ∀ c ∈ other, (digit? c).isSome = true) (hbegins : other <+: digits ++ rest) :
    other <+: digits := by
  rcases within_or_beyond hbegins with hwithin | ⟨c, more, rfl, hc⟩
  · exact hwithin
  · have hsome := hother c (List.mem_append_right digits List.mem_cons_self)
    rw [h c hc] at hsome
    cases hsome

/-- Digits start a run, however it goes on. -/
theorem AreDigits.exists_digitRun {digits : List Char} (h : AreDigits digit? digits)
    (rest : List Char) :
    ∃ value values after, digitRun digit? (digits ++ rest) = (value :: values, after) := by
  obtain ⟨c, more, rfl⟩ := List.exists_cons_of_ne_nil h.ne_nil
  obtain ⟨value, hvalue⟩ := Option.isSome_iff_exists.mp (h.isDigit c List.mem_cons_self)
  simp only [List.cons_append, digitRun, hvalue]
  exact ⟨_, _, _, rfl⟩

theorem AreDigits.stopsSign (hclass : ExcludesSigns digit?) {digits : List Char}
    (h : AreDigits digit? digits) (rest : List Char) : StopsSign (digits ++ rest) := by
  obtain ⟨c, more, rfl⟩ := List.exists_cons_of_ne_nil h.ne_nil
  have hc := h.isDigit c List.mem_cons_self
  intro d hd
  obtain rfl : c = d := by simpa using hd
  constructor
  · rintro rfl
    rw [hclass.plus] at hc
    cases hc
  · rintro rfl
    rw [hclass.minus] at hc
    cases hc

/-! ## Exponents -/

/-- The value of a signed run of digits. -/
def signedValue (digit? : Char → Option Nat) (sign digits : List Char) : Int :=
  if (sign? sign).1 = some true then -Int.ofNat (Text.numberOf 10 (digits.filterMap digit?))
  else Int.ofNat (Text.numberOf 10 (digits.filterMap digit?))

theorem exponent?_append (hclass : ExcludesSigns digit?) {letter : Char}
    (hletter : letter = 'e' ∨ letter = 'E') {sign digits rest : List Char} (hsign : IsSign sign)
    (hdigits : AreDigits digit? digits) (hrest : StopsDigits digit? rest) :
    exponent? digit? (letter :: (sign ++ (digits ++ rest))) =
      some (signedValue digit? sign digits, rest) := by
  have hread := sign?_append hsign (hdigits.stopsSign hclass rest)
  have hrun := digitRun_append hdigits.isDigit hrest
  obtain ⟨value, values, hvalues⟩ := List.exists_cons_of_ne_nil hdigits.filterMap_ne_nil
  simp only [exponent?, hletter, if_true, hread, hrun, hvalues, signedValue]

/-- The value of an exponent, zero if there is none. -/
def exponentValue (digit? : Char → Option Nat) (exponent : List Char) : Int :=
  ((exponent? digit? exponent).map Prod.fst).getD 0

theorem exponentValue_cons (hclass : ExcludesSigns digit?) {letter : Char}
    (hletter : letter = 'e' ∨ letter = 'E') {sign digits : List Char} (hsign : IsSign sign)
    (hdigits : AreDigits digit? digits) :
    exponentValue digit? (letter :: (sign ++ digits)) = signedValue digit? sign digits := by
  have hread := exponent?_append hclass hletter hsign hdigits (stopsDigits_nil digit?)
  rw [List.append_nil] at hread
  rw [exponentValue, hread]
  rfl

theorem exponent?_eq_none {text : List Char} (h : ∀ c ∈ text.head?, c ≠ 'e' ∧ c ≠ 'E') :
    exponent? digit? text = none := by
  cases text with
  | nil => rfl
  | cons c rest =>
      have hletter : ¬ (c = 'e' ∨ c = 'E') := not_or.mpr (h c rfl)
      rw [exponent?, if_neg hletter]

/-- An exponent at the start of a text, if there is one, with all the digits that follow. -/
theorem exists_exponent (digit? : Char → Option Nat) (text : List Char) :
    exponent? digit? text = none ∨
      ∃ (letter : Char) (sign digits rest : List Char),
        text = letter :: (sign ++ (digits ++ rest)) ∧ (letter = 'e' ∨ letter = 'E') ∧
        IsSign sign ∧ AreDigits digit? digits ∧ StopsDigits digit? rest := by
  cases text with
  | nil => exact .inl rfl
  | cons letter behind =>
      by_cases hletter : letter = 'e' ∨ letter = 'E'
      · obtain ⟨sign, hsign, hbehind, -⟩ := exists_sign behind
        obtain ⟨digits, rest, hsplit, hdigits, hrest, hrun⟩ :=
          exists_digitRun digit? (sign? behind).2
        by_cases hne : digits = []
        · left
          subst hne
          simp only [exponent?, hletter, if_true, hrun, List.filterMap_nil]
        · right
          refine ⟨letter, sign, digits, rest, ?_, hletter, hsign, ⟨hne, hdigits⟩, hrest⟩
          rw [← hsplit, ← hbehind]
      · left
        rw [exponent?, if_neg hletter]

end

end LogSieve.Number
