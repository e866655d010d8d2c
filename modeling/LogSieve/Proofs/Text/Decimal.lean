import LogSieve.Text.Basic
import LogSieve.Text.Blank
import LogSieve.Text.Digit
import Mathlib.Data.List.Induction

/-!
# Decimal digits are read back

The number of a run of ASCII digits is the same whether its digits are taken as
characters, as the library does (`Nat.ofDigitChars`), or as values.  So the readers of
digits find the number that was written, also behind the zeros that fill up a field
of a given width (`decimal?_padded`), and every run of digits is the number that it
writes in such a field (`padded_ofDigitChars`).
-/

namespace LogSieve.Text

theorem isAsciiDigit_iff {c : Char} : isAsciiDigit c = true ↔ 48 ≤ c.toNat ∧ c.toNat ≤ 57 := by
  simp only [isAsciiDigit, Bool.and_eq_true, decide_eq_true_eq]
  exact Iff.rfl

theorem isAsciiDigit_not_mem {c : Char} (h : isAsciiDigit c = true) {others : List Char}
    (hothers : others.any isAsciiDigit = false) : c ∉ others := by
  intro hc
  rw [List.any_eq_true.mpr ⟨c, hc, h⟩] at hothers
  cases hothers

theorem isAsciiDigit_ne {c d : Char} (h : isAsciiDigit c = true)
    (hd : isAsciiDigit d = false) : c ≠ d := by
  rintro rfl
  rw [h] at hd
  cases hd

theorem isBlank_of_isAsciiDigit {c : Char} (h : isAsciiDigit c = true) : isBlank c = false := by
  have hspace : c ≠ ' ' := isAsciiDigit_ne h (by decide)
  obtain ⟨hzero, hnine⟩ := isAsciiDigit_iff.mp h
  rw [isBlank, if_pos (by omega)]
  simp only [hspace, beq_eq_false_iff_ne, Bool.or_eq_false_iff, Bool.and_eq_false_iff,
    decide_eq_false_iff_not, ne_eq, not_false_eq_true, true_and]
  omega

/-- The values of ASCII digits. -/
def digitValues (t : Text) : List Nat := t.map fun c => c.toNat - '0'.toNat

theorem digitValue?_of_isAsciiDigit {c : Char} (h : isAsciiDigit c = true) :
    digitValue? c = some (c.toNat - '0'.toNat) := by
  have hlt : c.toNat < 128 := by
    have := (isAsciiDigit_iff.mp h).2
    omega
  rw [digitValue?, if_pos hlt, if_pos h]

theorem numberOf_digitValues (t : Text) : numberOf 10 (digitValues t) = Nat.ofDigitChars 10 t 0 := by
  have hstep : ∀ value, (digitValues t).foldl (fun value digit => value * 10 + digit) value =
      Nat.ofDigitChars 10 t value := by
    induction t with
    | nil => exact fun _ => rfl
    | cons c rest ih =>
        intro value
        rw [Nat.ofDigitChars_cons, ← ih, Nat.mul_comm 10 value]
        rfl
  exact hstep 0

theorem decimal?_eq_some {t : Text} (hne : t ≠ []) (h : ∀ c ∈ t, isAsciiDigit c = true) :
    decimal? t = some (Nat.ofDigitChars 10 t 0) := by
  have hvalues : t.mapM digitValue? = some (digitValues t) := by
    clear hne
    induction t with
    | nil => rfl
    | cons c rest ih =>
        have hrest := ih fun d hd => h d (List.mem_cons_of_mem c hd)
        rw [List.mapM_cons, digitValue?_of_isAsciiDigit (h c List.mem_cons_self), hrest]
        rfl
  have hempty : t.isEmpty = false := by simpa using hne
  rw [decimal?, hvalues, hempty, ← numberOf_digitValues]
  rfl

/-! ## Numbers as they are written -/

theorem isAsciiDigit_of_mem_ofNat {n : Nat} {c : Char} (h : c ∈ ofNat n) :
    isAsciiDigit c = true :=
  Nat.isDigit_of_mem_toDigits (by decide) (by decide) h

theorem exists_ofNat_eq_cons (n : Nat) :
    ∃ c rest, ofNat n = c :: rest ∧ isAsciiDigit c = true := by
  have hne : ofNat n ≠ [] := Nat.toDigits_ne_nil
  obtain ⟨c, rest, hdigits⟩ := List.exists_cons_of_ne_nil hne
  exact ⟨c, rest, hdigits, isAsciiDigit_of_mem_ofNat (hdigits ▸ List.mem_cons_self)⟩

theorem length_ofNat_le {width n : Nat} (hwidth : 0 < width) (h : n < Nat.pow 10 width) :
    (ofNat n).length ≤ width :=
  (Nat.length_toDigits_le_iff (by decide) hwidth).mpr h

theorem numberOf_ofNat (n : Nat) : numberOf 10 (digitValues (ofNat n)) = n := by
  rw [numberOf_digitValues, ofNat, Nat.ofDigitChars_ten_toDigits]

/-- No number but zero starts with a zero. -/
theorem head?_ofNat_ne {n : Nat} (h : 0 < n) : (ofNat n).head? ≠ some '0' := by
  induction n using Nat.strongRecOn with
  | ind n ih =>
      rw [ofNat, Nat.toDigits_eq_if (by decide)]
      split
      · simp only [List.head?_cons, ne_eq, Option.some.injEq, Nat.digitChar_eq_zero]
        omega
      · obtain ⟨first, more, hdigits, -⟩ := exists_ofNat_eq_cons (n / 10)
        have hfirst := ih (n / 10) (by omega) (by omega)
        rw [hdigits] at hfirst
        rw [ofNat] at hdigits
        rw [hdigits]
        exact hfirst

/-! ## Fields of a given width -/

/-- A number that fits into a field of a given width, filled up with zeros. -/
def padded (width n : Nat) : Text := padStart width '0' (ofNat n)

theorem isAsciiDigit_of_mem_padded {width n : Nat} {c : Char} (h : c ∈ padded width n) :
    isAsciiDigit c = true := by
  rcases List.mem_append.mp h with hzero | hdigit
  · rw [List.eq_of_mem_replicate hzero]
    decide
  · exact isAsciiDigit_of_mem_ofNat hdigit

theorem length_padded {width n : Nat} (h : (ofNat n).length ≤ width) :
    (padded width n).length = width := by
  rw [padded, padStart, List.length_append, List.length_replicate]
  omega

theorem padded_ne_nil (width n : Nat) : padded width n ≠ [] :=
  List.append_ne_nil_of_right_ne_nil _ Nat.toDigits_ne_nil

/-- The first digit of a field. -/
theorem exists_padded_eq_cons (width n : Nat) :
    ∃ c rest, padded width n = c :: rest ∧ isAsciiDigit c = true := by
  obtain ⟨c, rest, heq⟩ := List.exists_cons_of_ne_nil (padded_ne_nil width n)
  exact ⟨c, rest, heq, isAsciiDigit_of_mem_padded (heq ▸ List.mem_cons_self)⟩

theorem decimal?_padded (width n : Nat) : decimal? (padded width n) = some n := by
  rw [decimal?_eq_some (padded_ne_nil width n) fun _ hc => isAsciiDigit_of_mem_padded hc, padded,
    padStart, Nat.ofDigitChars_append, Nat.ofDigitChars_replicate_zero, Nat.mul_zero, ofNat,
    Nat.ofDigitChars_ten_toDigits]

/-! ## Runs of digits -/

theorem digitChar_value {c : Char} (h : isAsciiDigit c = true) :
    Nat.digitChar (c.toNat - '0'.toNat) = c := by
  have hall : ∀ n < 10, Nat.digitChar n = Char.ofNat (n + 48) := by decide
  have hzero : '0'.toNat = 48 := rfl
  obtain ⟨hlow, hhigh⟩ := isAsciiDigit_iff.mp h
  rw [hzero, hall _ (by omega), Nat.sub_add_cancel hlow, Char.ofNat_toNat]

/-- One digit more in a field that is wider by one. -/
theorem padded_concat {width n digit : Nat} (hwidth : 0 < width) (hdigit : digit < 10) :
    padded (width + 1) (10 * n + digit) = padded width n ++ [Nat.digitChar digit] := by
  have hdigits : ofNat (10 * n + digit) =
      if n = 0 then [Nat.digitChar digit] else ofNat n ++ [Nat.digitChar digit] := by
    have hfront : (10 * n + digit) / 10 = n := by omega
    have hlast : (10 * n + digit) % 10 = digit := by omega
    rw [ofNat, Nat.toDigits_eq_if (by decide), hfront, hlast]
    by_cases hzero : n = 0
    · rw [if_pos (by omega), if_pos hzero, hzero, Nat.mul_zero, Nat.zero_add]
    · rw [if_neg (by omega), if_neg hzero, ofNat]
  rw [padded, padded, padStart, padStart, hdigits]
  split
  · -- all digits of the narrower field are zeros
    rename_i hzero
    have hone : ofNat n = ['0'] := by
      rw [hzero]
      rfl
    obtain ⟨more, rfl⟩ : ∃ more, width = more + 1 := ⟨width - 1, by omega⟩
    rw [hone]
    simp [List.replicate_succ']
  · rw [List.length_append, List.length_singleton, Nat.add_sub_add_right, List.append_assoc]

/-- Digits are the number that they write, in a field that they fill. -/
theorem padded_ofDigitChars {t : Text} (hne : t ≠ []) (h : ∀ c ∈ t, isAsciiDigit c = true) :
    padded t.length (Nat.ofDigitChars 10 t 0) = t := by
  -- from the left, digit by digit, as numbers are read
  induction t using List.reverseRecOn with
  | nil => exact absurd rfl hne
  | append_singleton front c ih =>
      have hc := h c (by simp)
      have hvalue : c.toNat - '0'.toNat < 10 := digitValue?_lt_ten (digitValue?_of_isAsciiDigit hc)
      have hread : Nat.ofDigitChars 10 (front ++ [c]) 0 =
          10 * Nat.ofDigitChars 10 front 0 + (c.toNat - '0'.toNat) := by
        rw [Nat.ofDigitChars_append, Nat.ofDigitChars_cons, Nat.ofDigitChars_nil]
      rw [hread, List.length_append, List.length_singleton]
      cases front with
      | nil =>
          rw [Nat.ofDigitChars_nil, Nat.mul_zero, Nat.zero_add, padded, padStart, ofNat,
            Nat.toDigits_of_lt_base hvalue, digitChar_value hc]
          rfl
      | cons first more =>
          have hmore : ∀ d ∈ first :: more, isAsciiDigit d = true :=
            fun d hd => h d (List.mem_append_left _ hd)
          rw [padded_concat (by simp) hvalue, digitChar_value hc, ih (by simp) hmore]

theorem length_ofNat_ofDigitChars_le {t : Text} (hne : t ≠ [])
    (h : ∀ c ∈ t, isAsciiDigit c = true) :
    (ofNat (Nat.ofDigitChars 10 t 0)).length ≤ t.length := by
  have hlength := congrArg List.length (padded_ofDigitChars hne h)
  rw [padded, padStart, List.length_append] at hlength
  omega

theorem ofDigitChars_lt {t : Text} (h : ∀ c ∈ t, isAsciiDigit c = true) :
    Nat.ofDigitChars 10 t 0 < Nat.pow 10 t.length := by
  by_cases hne : t = []
  · rw [hne]
    decide
  · exact (Nat.length_toDigits_le_iff (by decide) (List.length_pos_iff.mpr hne)).mp
      (length_ofNat_ofDigitChars_le hne h)

/-- The first digits of a text are a number in a field. -/
theorem exists_eq_padded_append {width : Nat} (hwidth : 0 < width) {t : Text}
    (hlength : width ≤ t.length) (h : ∀ c ∈ t, isAsciiDigit c = true) :
    ∃ n, (ofNat n).length ≤ width ∧ t = padded width n ++ t.drop width := by
  have htake : (t.take width).length = width := List.length_take_of_le hlength
  have hne : t.take width ≠ [] := List.ne_nil_of_length_pos (by omega)
  have hdigits : ∀ c ∈ t.take width, isAsciiDigit c = true :=
    fun c hc => h c (List.mem_of_mem_take hc)
  have hfield := padded_ofDigitChars hne hdigits
  have hfits := length_ofNat_ofDigitChars_le hne hdigits
  rw [htake] at hfield hfits
  exact ⟨_, hfits, by rw [hfield, List.take_append_drop]⟩

end LogSieve.Text
