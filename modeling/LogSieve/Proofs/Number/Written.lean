import LogSieve.Number.Style
import LogSieve.Proofs.Number.Whole

/-!
# Numbers are written with a digit first

However a finite number is written, its text starts with a numeral: positionally or with an
exponent, the first character behind the sign is a digit (`exists_text_finite`).  The grids
on which the shortest decimal is looked for never give zero for a number that is not zero, so
there is a first significant digit.
-/

namespace LogSieve.Binary64

/-! ## The digits -/

theorem le_divideToEven (top bottom : Nat) : top / bottom ≤ divideToEven top bottom := by
  unfold divideToEven
  dsimp only
  split
  · exact Nat.le_succ _
  · exact Nat.le_refl _

theorem ofDecimal_zero (negative : Bool) (power : Int) :
    ofDecimal negative 0 power = .finite negative 0 leastExponent := rfl

/-- A number divided by ten to the power. -/
def onGrid (mantissa : Nat) (exponent power : Int) : Nat × Nat :=
  let (top, bottom) := fraction mantissa exponent
  if power < 0 then (top * Nat.pow 10 (-power).toNat, bottom)
  else (top, bottom * Nat.pow 10 power.toNat)

theorem onGrid?_eq (mantissa : Nat) (exponent power : Int) :
    onGrid? mantissa exponent power =
      let (top, bottom) := onGrid mantissa exponent power
      let target := Binary64.finite false mantissa exponent
      let belowServes := ofDecimal false (top / bottom) power == target
      let aboveServes := ofDecimal false (top / bottom + 1) power == target
      if belowServes && aboveServes then some (divideToEven top bottom)
      else if belowServes then some (top / bottom)
      else if aboveServes then some (top / bottom + 1)
      else none := rfl

/-- No other number is read back from zero. -/
theorem ne_zero_of_onGrid? {mantissa coefficient : Nat} {exponent power : Int}
    (hm : mantissa ≠ 0) (h : onGrid? mantissa exponent power = some coefficient) :
    coefficient ≠ 0 := by
  have hserves : ∀ below, (ofDecimal false below power == finite false mantissa exponent) = true →
      below ≠ 0 := by
    rintro below hbelow rfl
    rw [beq_iff_eq, ofDecimal_zero] at hbelow
    exact hm (Binary64.finite.inj hbelow).2.1.symm
  rw [onGrid?_eq] at h
  obtain ⟨top, bottom, hgrid⟩ : ∃ top bottom, onGrid mantissa exponent power = (top, bottom) :=
    ⟨_, _, rfl⟩
  rw [hgrid] at h
  dsimp only at h
  split at h
  · rename_i hboth
    have hbelow := hserves _ ((Bool.and_eq_true _ _).mp hboth).1
    rw [← Option.some.inj h]
    exact (Nat.pos_of_ne_zero hbelow).trans_le (le_divideToEven top bottom) |>.ne'
  · split at h
    · rename_i hbelow
      rw [← Option.some.inj h]
      exact hserves _ hbelow
    · split at h
      · rw [← Option.some.inj h]
        exact Nat.succ_ne_zero _
      · cases h

theorem firstGrid_spec {mantissa : Nat} (hm : mantissa ≠ 0) (exponent position : Int)
    (fuel count : Nat) :
    firstGrid mantissa exponent position fuel count = (0, 0) ∨
      (firstGrid mantissa exponent position fuel count).1 ≠ 0 := by
  -- By induction on the grids that are left, from any finer one on.
  induction fuel generalizing count with
  | zero => exact .inl rfl
  | succ fuel ih =>
      rw [firstGrid]
      split
      · rename_i coefficient hgrid
        exact .inr (ne_zero_of_onGrid? hm hgrid)
      · exact ih (count + 1)

/-- The significant digits of a number: there is a first one, or no grid has served and the number
is written like zero. -/
theorem shortestDigits_spec {mantissa : Nat} (hm : mantissa ≠ 0) (exponent : Int) :
    shortestDigits mantissa exponent = ([], 1) ∨
      (shortestDigits mantissa exponent).1 ≠ [] ∧
        ∀ c ∈ (shortestDigits mantissa exponent).1, Text.isAsciiDigit c = true := by
  obtain ⟨coefficient, power, hgrid⟩ : ∃ coefficient power,
      firstGrid mantissa exponent (decimalPosition (fraction mantissa exponent).1
        (fraction mantissa exponent).2) 17 1 = (coefficient, power) := ⟨_, _, rfl⟩
  have hfound := firstGrid_spec hm exponent (decimalPosition (fraction mantissa exponent).1
    (fraction mantissa exponent).2) 17 1
  have hdigits : shortestDigits mantissa exponent =
      (((Nat.toDigits 10 coefficient).reverse.dropWhile (· == '0')).reverse,
        power + (Nat.toDigits 10 coefficient).length) := by
    rw [shortestDigits]
    dsimp only
    rw [hgrid]
  rw [hdigits]
  rw [hgrid] at hfound
  rcases hfound with hnone | hne
  · obtain ⟨rfl, rfl⟩ := Prod.mk.inj hnone
    exact .inl rfl
  · right
    obtain ⟨c, rest, hcons, -⟩ := Text.exists_ofNat_eq_cons coefficient
    rw [Text.ofNat] at hcons
    constructor
    · -- the first digit is no zero
      have hhead := Text.head?_ofNat_ne (Nat.pos_of_ne_zero hne)
      rw [Text.ofNat, hcons] at hhead
      intro hnil
      rw [List.reverse_eq_nil_iff, List.dropWhile_eq_nil_iff] at hnil
      have hc := hnil c (by rw [hcons]; simp)
      exact hhead (congrArg some (beq_iff_eq.mp hc))
    · intro d hd
      rw [List.mem_reverse] at hd
      have hmem := (List.dropWhile_sublist _).mem hd
      exact Text.isAsciiDigit_of_mem_ofNat (List.mem_reverse.mp hmem)

/-! ## The text -/

/-- A text that starts with a digit. -/
def StartsWithDigit (text : Text) : Prop := ∃ c rest, text = c :: rest ∧ Text.isAsciiDigit c = true

theorem startsWithDigit_append {digits : Text} (hne : digits ≠ [])
    (h : ∀ c ∈ digits, Text.isAsciiDigit c = true) (rest : Text) :
    StartsWithDigit (digits ++ rest) := by
  obtain ⟨c, more, rfl⟩ := List.exists_cons_of_ne_nil hne
  exact ⟨c, more ++ rest, rfl, h c List.mem_cons_self⟩

/-- With no digits at all there are the zeros up to the point. -/
theorem startsWithDigit_positional {digits : Text} (h : ∀ c ∈ digits, Text.isAsciiDigit c = true)
    (position : Int) : StartsWithDigit (positional .standard digits position) := by
  unfold positional
  split
  · exact ⟨'0', _, rfl, by decide⟩
  · rename_i hposition
    split
    · rename_i hinside
      have hne : digits.take position.toNat ≠ [] := by
        rw [ne_eq, List.take_eq_nil_iff]
        rintro (hzero | rfl)
        · omega
        · cases hinside
      exact startsWithDigit_append hne (fun c hc => h c (List.mem_of_mem_take hc)) _
    · rw [List.append_assoc]
      by_cases hne : digits = []
      · subst hne
        obtain ⟨zeros, hzeros⟩ : ∃ zeros, position.toNat - ([] : Text).length = zeros + 1 :=
          ⟨position.toNat - 1, by simp only [List.length_nil]; omega⟩
        rw [hzeros]
        exact ⟨'0', _, rfl, by decide⟩
      · exact startsWithDigit_append hne h _

theorem startsWithDigit_scientific {digits : Text} (hne : digits ≠ [])
    (h : ∀ c ∈ digits, Text.isAsciiDigit c = true) (exponent : Int) :
    StartsWithDigit (scientific .standard digits exponent) := by
  obtain ⟨c, more, rfl⟩ := List.exists_cons_of_ne_nil hne
  have hc := h c List.mem_cons_self
  cases more with
  | nil => exact ⟨c, _, rfl, hc⟩
  | cons d more => exact ⟨c, _, rfl, hc⟩

/-- The text of a finite number is a sign or none and something that starts with a digit. -/
theorem exists_text_finite (negative : Bool) (mantissa : Nat) (exponent : Int) :
    ∃ magnitude, StartsWithDigit magnitude ∧
      text .standard (.finite negative mantissa exponent) =
        (if negative then ['-'] else []) ++ magnitude := by
  rw [text]
  refine ⟨_, ?_, rfl⟩
  split
  · exact ⟨'0', _, rfl, by decide⟩
  · rename_i hm
    rcases shortestDigits_spec hm exponent with hnone | ⟨hne, hdigits⟩
    · have hzero : Style.standard.leastPositional ≤ (1 : Int) - 1 ∧
          (1 : Int) - 1 ≤ Style.standard.greatestPositional := by decide
      rw [hnone]
      simp only [if_pos hzero]
      exact startsWithDigit_positional (List.forall_mem_nil _) 1
    · dsimp only
      split
      · exact startsWithDigit_positional hdigits _
      · exact startsWithDigit_scientific hne hdigits _

end LogSieve.Binary64
