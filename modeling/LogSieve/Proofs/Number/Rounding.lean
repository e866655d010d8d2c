import LogSieve.Number.Binary64
import Mathlib.Algebra.Order.Field.Power
import Mathlib.Algebra.Order.Field.Rat
import Mathlib.Tactic.FieldSimp
import Mathlib.Tactic.Linarith
import Mathlib.Tactic.NormNum
import Mathlib.Tactic.Positivity
import Mathlib.Tactic.Ring
import Mathlib.Tactic.Zify

/-!
# Rounding to the 64-bit format

A finite number is the rational number that its mantissa, exponent and sign make.
Comparing is comparing these (`atMost_finite_iff`), a number of the format is its own
rounding (`exists_nearest_eq`), and rounding leaves the finite numbers exactly from the
middle between the greatest of them and the next power of two on (`ofDecimal_spec`).

All three go back to what the exponent of a positive fraction is (`exponentFor_spec`): the
mantissa of fifty-three bits is used as far as the least exponent allows it.
-/

namespace LogSieve.Binary64

/-- What a mantissa and an exponent stand for. -/
def magnitude (mantissa : Nat) (exponent : Int) : ℚ := mantissa * 2 ^ exponent

/-- What a finite number stands for. -/
def value (negative : Bool) (mantissa : Nat) (exponent : Int) : ℚ :=
  if negative then -magnitude mantissa exponent else magnitude mantissa exponent

/-! ## Comparing -/

theorem magnitude_shiftLeft (mantissa : Nat) {exponent lower : Int} (h : lower ≤ exponent) :
    magnitude (mantissa <<< (exponent - lower).toNat) lower = magnitude mantissa exponent := by
  have hshift : ((exponent - lower).toNat : Int) = exponent - lower := by omega
  have hpow : (2 : ℚ) ^ (exponent - lower).toNat * 2 ^ lower = 2 ^ exponent := by
    rw [← zpow_natCast, hshift, ← zpow_add₀ two_ne_zero, Int.sub_add_cancel]
  rw [magnitude, magnitude, Nat.shiftLeft_eq, Nat.cast_mul, Nat.cast_pow, Nat.cast_ofNat, mul_assoc,
    hpow]

theorem alignedMantissa_mul (negative : Bool) (mantissa : Nat) {exponent lower : Int}
    (h : lower ≤ exponent) :
    (alignedMantissa negative mantissa exponent lower : ℚ) * 2 ^ lower =
      value negative mantissa exponent := by
  have haligned := magnitude_shiftLeft mantissa h
  rw [magnitude] at haligned
  rw [value, ← haligned, alignedMantissa, Int.ofNat_eq_natCast]
  cases negative
  · rw [if_neg Bool.false_ne_true, if_neg Bool.false_ne_true, Int.cast_natCast]
  · rw [if_pos rfl, if_pos rfl, Int.cast_neg, Int.cast_natCast, neg_mul]

/-- Comparing finite numbers is comparing what they stand for. -/
theorem atMost_finite_iff {negative negative' : Bool} {mantissa mantissa' : Nat}
    {exponent exponent' : Int} :
    (finite negative mantissa exponent).atMost (finite negative' mantissa' exponent') = true ↔
      value negative mantissa exponent ≤ value negative' mantissa' exponent' := by
  have hpos : (0 : ℚ) < 2 ^ min exponent exponent' := by positivity
  rw [← alignedMantissa_mul negative mantissa (min_le_left exponent exponent'),
    ← alignedMantissa_mul negative' mantissa' (min_le_right exponent exponent'),
    mul_le_mul_iff_of_pos_right hpos, Int.cast_le]
  exact decide_eq_true_iff

/-! ## The exponent of a fraction -/

/-- The exponent with which a positive number has a mantissa of fifty-three bits, or the least
exponent. -/
structure IsExponentFor (number : ℚ) (exponent : Int) : Prop where
  least_le : leastExponent ≤ exponent
  lt : number < 2 ^ 53 * 2 ^ exponent
  le : exponent = leastExponent ∨ 2 ^ 52 * 2 ^ exponent ≤ number

theorem scaleDown_spec (numerator : Nat) {denominator : Nat} (h : 0 < denominator)
    (exponent : Int) :
    0 < (scaleDown numerator denominator exponent).2 ∧
      ((scaleDown numerator denominator exponent).1 : ℚ) /
          (scaleDown numerator denominator exponent).2 =
        numerator / denominator / 2 ^ exponent := by
  unfold scaleDown
  split
  · rename_i hneg
    have hexponent : exponent = -((-exponent).toNat : Int) := by omega
    refine ⟨h, ?_⟩
    rw [hexponent, zpow_neg, zpow_natCast, div_inv_eq_mul]
    simp only [neg_neg, Int.toNat_natCast, Nat.shiftLeft_eq]
    push_cast
    ring
  · rename_i hnonneg
    have hexponent : exponent = (exponent.toNat : Int) := by omega
    constructor
    · simp only [Nat.shiftLeft_eq]
      positivity
    · rw [hexponent, zpow_natCast]
      simp only [Int.toNat_natCast, Nat.shiftLeft_eq]
      push_cast
      rw [div_div]

/-- The sizes of numerator and denominator bound a fraction. -/
theorem log2_bounds {numerator denominator : Nat} (hn : 0 < numerator) (hd : 0 < denominator) :
    (2 : ℚ) ^ ((numerator.log2 : Int) - denominator.log2 - 1) < numerator / denominator ∧
      (numerator : ℚ) / denominator < 2 ^ ((numerator.log2 : Int) - denominator.log2 + 1) := by
  have hnlow : (2 : ℚ) ^ (numerator.log2 : Int) ≤ numerator := by
    exact_mod_cast Nat.log2_self_le hn.ne'
  have hnhigh : (numerator : ℚ) < 2 ^ ((numerator.log2 : Int) + 1) := by
    exact_mod_cast @Nat.lt_log2_self numerator
  have hdlow : (2 : ℚ) ^ (denominator.log2 : Int) ≤ denominator := by
    exact_mod_cast Nat.log2_self_le hd.ne'
  have hdhigh : (denominator : ℚ) < 2 ^ ((denominator.log2 : Int) + 1) := by
    exact_mod_cast @Nat.lt_log2_self denominator
  have hdpos : (0 : ℚ) < denominator := by exact_mod_cast hd
  constructor
  · rw [lt_div_iff₀ hdpos]
    calc (2 : ℚ) ^ ((numerator.log2 : Int) - denominator.log2 - 1) * denominator
        < 2 ^ ((numerator.log2 : Int) - denominator.log2 - 1) * 2 ^ ((denominator.log2 : Int) + 1) :=
          mul_lt_mul_of_pos_left hdhigh (by positivity)
      _ = 2 ^ (numerator.log2 : Int) := by
          rw [← zpow_add₀ two_ne_zero]
          congr 1
          omega
      _ ≤ numerator := hnlow
  · rw [div_lt_iff₀ hdpos]
    calc (numerator : ℚ) < 2 ^ ((numerator.log2 : Int) + 1) := hnhigh
      _ = 2 ^ ((numerator.log2 : Int) - denominator.log2 + 1) * 2 ^ (denominator.log2 : Int) := by
          rw [← zpow_add₀ two_ne_zero]
          congr 1
          omega
      _ ≤ 2 ^ ((numerator.log2 : Int) - denominator.log2 + 1) * denominator :=
          mul_le_mul_of_nonneg_left hdlow (by positivity)

/-- A quotient of natural numbers is below a bound just if the fraction is. -/
theorem div_lt_iff_cast {top bottom bound : Nat} (h : 0 < bottom) :
    top / bottom < bound ↔ (top : ℚ) / bottom < bound := by
  have hpos : (0 : ℚ) < bottom := by exact_mod_cast h
  rw [Nat.div_lt_iff_lt_mul h, div_lt_iff₀ hpos]
  exact_mod_cast Iff.rfl

/-- If the sizes do not lead below the least exponent, they leave fifty-three or fifty-four bits. -/
theorem guess_spec {numerator denominator : Nat} (hn : 0 < numerator) (hd : 0 < denominator)
    {guess : Int}
    (hguess : guess = max leastExponent ((numerator.log2 : Int) - (denominator.log2 : Int) - 53)) :
    guess = leastExponent ∧ (numerator : ℚ) / denominator < 2 ^ 53 * 2 ^ guess ∨
      2 ^ 52 * 2 ^ guess ≤ (numerator : ℚ) / denominator ∧
        (numerator : ℚ) / denominator < 2 ^ 53 * 2 ^ (guess + 1) := by
  obtain ⟨hlow, hhigh⟩ := log2_bounds hn hd
  rw [← zpow_natCast, ← zpow_natCast, ← zpow_add₀ two_ne_zero, ← zpow_add₀ two_ne_zero,
    ← zpow_add₀ two_ne_zero]
  rcases le_or_gt leastExponent ((numerator.log2 : Int) - denominator.log2 - 53) with hle | hlt
  · rw [max_eq_right hle] at hguess
    refine .inr ⟨?_, ?_⟩
    · refine le_trans (zpow_le_zpow_right₀ one_le_two ?_) hlow.le
      push_cast
      omega
    · refine hhigh.trans_le (zpow_le_zpow_right₀ one_le_two ?_)
      push_cast
      omega
  · rw [max_eq_left hlt.le] at hguess
    refine .inl ⟨hguess, hhigh.trans_le (zpow_le_zpow_right₀ one_le_two ?_)⟩
    push_cast
    omega

theorem exponentFor_spec {numerator denominator : Nat} (hn : 0 < numerator)
    (hd : 0 < denominator) :
    IsExponentFor (numerator / denominator) (exponentFor numerator denominator) := by
  obtain ⟨guess, hguess⟩ : ∃ guess : Int, guess =
      max leastExponent ((numerator.log2 : Int) - (denominator.log2 : Int) - 53) := ⟨_, rfl⟩
  obtain ⟨hbottom, hscaled⟩ := scaleDown_spec numerator hd guess
  have hpow : (0 : ℚ) < 2 ^ guess := by positivity
  have hstep : (2 : ℚ) ^ (guess + 1) = 2 * 2 ^ guess := by
    rw [zpow_add_one₀ two_ne_zero, mul_comm]
  have hfits : (scaleDown numerator denominator guess).1 /
      (scaleDown numerator denominator guess).2 < mantissaBound ↔
        (numerator : ℚ) / denominator < 2 ^ 53 * 2 ^ guess := by
    rw [div_lt_iff_cast hbottom, hscaled, div_lt_iff₀ hpow]
    exact iff_of_eq (by norm_num [mantissaBound])
  have hsizes := guess_spec hn hd hguess
  have hleast : leastExponent ≤ guess := hguess ▸ le_max_left _ _
  have hexponent : exponentFor numerator denominator =
      if (scaleDown numerator denominator guess).1 /
        (scaleDown numerator denominator guess).2 < mantissaBound then guess else guess + 1 := by
    rw [hguess]
    rfl
  rw [hexponent]
  split
  · rename_i hlt
    refine ⟨hleast, hfits.mp hlt, ?_⟩
    rcases hsizes with ⟨heq, -⟩ | ⟨hle, -⟩
    · exact .inl heq
    · exact .inr hle
  · rename_i hge
    have hle := not_lt.mp (mt hfits.mpr hge)
    refine ⟨by omega, ?_, .inr ?_⟩
    · rcases hsizes with ⟨-, hlt⟩ | ⟨-, hlt⟩
      · exact absurd hle (not_le.mpr hlt)
      · exact hlt
    · rw [hstep]
      linarith

/-! ## Rounding a quotient -/

theorem divideToEven_mul {bottom : Nat} (h : 0 < bottom) (quotient : Nat) :
    divideToEven (quotient * bottom) bottom = quotient := by
  rw [divideToEven, Nat.mul_div_cancel quotient h, Nat.mul_mod_left]
  exact if_neg (by omega)

/-- A quotient is rounded to less than an even bound just if it is more than a half below. -/
theorem divideToEven_lt_iff {top bottom half : Nat} (h : 0 < bottom) :
    divideToEven top bottom < 2 * half ↔ 2 * top + bottom < 4 * (half * bottom) := by
  obtain ⟨quotient, hquotient⟩ : ∃ quotient, quotient = top / bottom := ⟨_, rfl⟩
  obtain ⟨remainder, hremainder⟩ : ∃ remainder, remainder = top % bottom := ⟨_, rfl⟩
  have htop : top = quotient * bottom + remainder := by
    rw [hquotient, hremainder, Nat.div_add_mod']
  have hlt : remainder < bottom := hremainder ▸ Nat.mod_lt top h
  simp only [divideToEven, ← hquotient, ← hremainder]
  rcases Nat.lt_trichotomy (quotient + 1) (2 * half) with hbelow | hodd | hbeyond
  · have hle : (quotient + 2) * bottom ≤ 2 * half * bottom := Nat.mul_le_mul_right bottom hbelow
    rw [Nat.add_mul, Nat.mul_assoc] at hle
    split <;> omega
  · -- The quotient is odd: half of the divisor is enough to round up.
    have heq : (quotient + 1) * bottom = 2 * half * bottom := by rw [hodd]
    rw [Nat.add_mul, Nat.one_mul, Nat.mul_assoc] at heq
    split <;> omega
  · have hle : 2 * half * bottom ≤ quotient * bottom := Nat.mul_le_mul_right bottom (by omega)
    rw [Nat.mul_assoc] at hle
    split <;> omega

/-- The fraction divided by two to the exponent, rounded. -/
def roundedMantissa (numerator denominator : Nat) (exponent : Int) : Nat :=
  divideToEven (scaleDown numerator denominator exponent).1
    (scaleDown numerator denominator exponent).2

/-- Nothing is rounded where the format has the number. -/
theorem roundedMantissa_of_eq {numerator denominator mantissa : Nat} {exponent : Int}
    (hd : 0 < denominator) (h : (numerator : ℚ) / denominator = magnitude mantissa exponent) :
    roundedMantissa numerator denominator exponent = mantissa := by
  obtain ⟨hbottom, hscaled⟩ := scaleDown_spec numerator hd exponent
  have hpos : (0 : ℚ) < (scaleDown numerator denominator exponent).2 := by exact_mod_cast hbottom
  have hpow : (2 : ℚ) ^ exponent ≠ 0 := by positivity
  rw [h, magnitude, mul_div_cancel_right₀ _ hpow, div_eq_iff hpos.ne'] at hscaled
  have htop : (scaleDown numerator denominator exponent).1 =
      mantissa * (scaleDown numerator denominator exponent).2 := by exact_mod_cast hscaled
  rw [roundedMantissa, htop, divideToEven_mul hbottom]

/-- The rounded mantissa has no more than fifty-three bits just if the number is more than half
a unit below the bound. -/
theorem roundedMantissa_lt_iff {numerator denominator : Nat} {exponent : Int}
    (hd : 0 < denominator) :
    roundedMantissa numerator denominator exponent < mantissaBound ↔
      (numerator : ℚ) / denominator < (2 ^ 54 - 1) * 2 ^ (exponent - 1) := by
  obtain ⟨hbottom, hscaled⟩ := scaleDown_spec numerator hd exponent
  have hpos : (0 : ℚ) < (scaleDown numerator denominator exponent).2 := by exact_mod_cast hbottom
  have hpow : (0 : ℚ) < 2 ^ exponent := by positivity
  have hbound : mantissaBound = 2 * 2 ^ 52 := by decide
  rw [roundedMantissa, hbound, divideToEven_lt_iff hbottom]
  rw [zpow_sub_one₀ two_ne_zero]
  calc 2 * (scaleDown numerator denominator exponent).1 +
        (scaleDown numerator denominator exponent).2 <
          4 * (2 ^ 52 * (scaleDown numerator denominator exponent).2)
      ↔ 2 * ((scaleDown numerator denominator exponent).1 : ℚ) +
          (scaleDown numerator denominator exponent).2 <
            4 * (2 ^ 52 * (scaleDown numerator denominator exponent).2) := by exact_mod_cast Iff.rfl
    _ ↔ ((scaleDown numerator denominator exponent).1 : ℚ) /
          (scaleDown numerator denominator exponent).2 < (2 ^ 54 - 1) / 2 := by
        rw [div_lt_iff₀ hpos]
        constructor <;> intro h <;> linarith
    _ ↔ (numerator : ℚ) / denominator < (2 ^ 54 - 1) * (2 ^ exponent * 2⁻¹) := by
        rw [hscaled, div_lt_iff₀ hpow]
        exact iff_of_eq (by ring_nf)

/-! ## The nearest number -/

theorem nearest_eq (negative : Bool) {numerator : Nat} (denominator : Nat) (hn : 0 < numerator) :
    nearest negative numerator denominator =
      let exponent := exponentFor numerator denominator
      let rounded := roundedMantissa numerator denominator exponent
      if rounded < mantissaBound then
        if exponent > greatestExponent then .infinite negative
        else .finite negative rounded exponent
      else
        if exponent + 1 > greatestExponent then .infinite negative
        else .finite negative (rounded / 2) (exponent + 1) := by
  simp only [nearest, if_neg hn.ne', roundedMantissa]
  split <;> rename_i hrounded
  · simp only [hrounded, if_true]
  · simp only [hrounded, if_false]

/-- A number of the format is its own rounding. -/
theorem exists_nearest_eq (negative : Bool) {numerator denominator mantissa : Nat}
    {exponent : Int} (hn : 0 < numerator) (hd : 0 < denominator)
    (hmantissa : mantissa < mantissaBound) (hleast : leastExponent ≤ exponent)
    (hgreatest : exponent ≤ greatestExponent)
    (hvalue : (numerator : ℚ) / denominator = magnitude mantissa exponent) :
    ∃ mantissa' exponent', nearest negative numerator denominator =
        .finite negative mantissa' exponent' ∧
      magnitude mantissa' exponent' = magnitude mantissa exponent := by
  have hspec := exponentFor_spec hn hd
  obtain ⟨found, hfound⟩ : ∃ found, found = exponentFor numerator denominator := ⟨_, rfl⟩
  rw [← hfound] at hspec
  have hlt : (mantissa : ℚ) < 2 ^ 53 := by exact_mod_cast hmantissa
  -- With a greater exponent the mantissa would have its full size, which is too much.
  have hle : found ≤ exponent := by
    by_contra hgt
    have hbig := hspec.le.resolve_left (by omega)
    have hpow : (2 : ℚ) ^ exponent * 2 ≤ 2 ^ found := by
      rw [← zpow_add_one₀ two_ne_zero]
      exact zpow_le_zpow_right₀ one_le_two (by omega)
    have hpos : (0 : ℚ) < 2 ^ exponent := by positivity
    rw [hvalue, magnitude] at hbig
    nlinarith
  -- With the smaller exponent the mantissa is still a natural number.
  obtain ⟨scaled, hscaled⟩ : ∃ scaled, scaled = mantissa <<< (exponent - found).toNat := ⟨_, rfl⟩
  have hmagnitude : magnitude scaled found = magnitude mantissa exponent := by
    rw [hscaled, magnitude_shiftLeft mantissa hle]
  have hrounded : roundedMantissa numerator denominator found = scaled :=
    roundedMantissa_of_eq hd (hvalue.trans hmagnitude.symm)
  have hbound : scaled < mantissaBound := by
    have hscaledLt := hspec.lt
    rw [hvalue, ← hmagnitude, magnitude, mul_lt_mul_iff_of_pos_right (by positivity)] at hscaledLt
    exact_mod_cast hscaledLt
  refine ⟨scaled, found, ?_, hmagnitude⟩
  simp only [nearest_eq negative denominator hn, ← hfound, hrounded, hbound, if_true]
  exact if_neg (by omega)

/-- From here on numbers are rounded to an infinity. -/
def overflowBound : ℚ := (2 ^ 54 - 1) * 2 ^ 970

theorem overflowBound_eq : overflowBound = (2 ^ 54 - 1) * 2 ^ (greatestExponent - 1) := by
  rw [overflowBound, show greatestExponent - 1 = ((970 : Nat) : Int) by decide, zpow_natCast]

/-- A fraction is rounded to an infinity from the overflow bound on, else to a finite number. -/
theorem nearest_spec (negative : Bool) {numerator denominator : Nat} (hd : 0 < denominator) :
    overflowBound ≤ (numerator : ℚ) / denominator ∧
        nearest negative numerator denominator = .infinite negative ∨
      (numerator : ℚ) / denominator < overflowBound ∧
        ∃ mantissa exponent, nearest negative numerator denominator =
          .finite negative mantissa exponent := by
  rcases Nat.eq_zero_or_pos numerator with rfl | hn
  · right
    refine ⟨?_, 0, leastExponent, rfl⟩
    rw [Nat.cast_zero, zero_div, overflowBound_eq]
    have hpow : (0 : ℚ) < 2 ^ (greatestExponent - 1) := by positivity
    linarith
  have hspec := exponentFor_spec hn hd
  rw [nearest_eq negative denominator hn]
  obtain ⟨found, hfound⟩ : ∃ found, found = exponentFor numerator denominator := ⟨_, rfl⟩
  rw [← hfound] at hspec ⊢
  have hrounded := @roundedMantissa_lt_iff numerator denominator found hd
  have hpow : (2 : ℚ) ^ found = 2 * 2 ^ (found - 1) := by
    rw [← zpow_one_add₀ two_ne_zero, add_sub_cancel]
  have hpos : (0 : ℚ) < 2 ^ (found - 1) := by positivity
  have hlt := hspec.lt
  rw [overflowBound_eq]
  rcases lt_trichotomy found greatestExponent with hbelow | rfl | habove
  · right
    have hle : (2 : ℚ) ^ found ≤ 2 ^ (greatestExponent - 1) :=
      zpow_le_zpow_right₀ one_le_two (by omega)
    refine ⟨by linarith, ?_⟩
    simp only [if_neg (show ¬ found > greatestExponent by omega),
      if_neg (show ¬ found + 1 > greatestExponent by omega)]
    split
    · exact ⟨_, _, rfl⟩
    · exact ⟨_, _, rfl⟩
  · -- With the greatest exponent the rounded mantissa decides.
    by_cases hfits : roundedMantissa numerator denominator greatestExponent < mantissaBound
    · right
      refine ⟨hrounded.mp hfits, ?_⟩
      simp only [hfits, if_true, if_neg (lt_irrefl greatestExponent)]
      exact ⟨_, _, rfl⟩
    · left
      refine ⟨not_lt.mp (mt hrounded.mpr hfits), ?_⟩
      simp only [hfits, if_false, if_pos (show greatestExponent + 1 > greatestExponent by omega)]
  · left
    have hbig := hspec.le.resolve_left (by
      rintro rfl
      exact absurd habove (by decide))
    have hle : (2 : ℚ) ^ (greatestExponent - 1 + 1 + 1) ≤ 2 ^ found :=
      zpow_le_zpow_right₀ one_le_two (by omega)
    rw [zpow_add_one₀ two_ne_zero, zpow_add_one₀ two_ne_zero] at hle
    have hgreatest : (0 : ℚ) < 2 ^ (greatestExponent - 1) := by positivity
    refine ⟨by linarith, ?_⟩
    simp only [if_pos (show found > greatestExponent from habove),
      if_pos (show found + 1 > greatestExponent by omega), ite_self]

/-! ## Decimals -/

theorem two_zpow_le_ten_zpow {power : Int} (h : 0 ≤ power) :
    (2 : ℚ) ^ (3 * power) ≤ 10 ^ power := by
  obtain ⟨exponent, rfl⟩ := Int.eq_ofNat_of_zero_le h
  rw [zpow_mul, zpow_natCast, zpow_natCast]
  exact pow_le_pow_left₀ (by positivity) (by norm_num) exponent

/-- The sizes of a coefficient and a power of ten bound a decimal. -/
theorem two_zpow_le_decimal {coefficient : Nat} {power : Int} (hne : coefficient ≠ 0)
    (h : 0 ≤ power) :
    (2 : ℚ) ^ ((coefficient.log2 : Int) + 3 * power) ≤ coefficient * 10 ^ power := by
  have hsize : (2 : ℚ) ^ (coefficient.log2 : Int) ≤ coefficient := by
    exact_mod_cast Nat.log2_self_le hne
  rw [zpow_add₀ two_ne_zero]
  exact mul_le_mul hsize (two_zpow_le_ten_zpow h) (by positivity) (by positivity)

theorem decimal_lt_two_zpow (coefficient : Nat) {power : Int} (h : power ≤ 0) :
    coefficient * (10 : ℚ) ^ power < 2 ^ ((coefficient.log2 : Int) + 1 + 3 * power) := by
  have hsize : (coefficient : ℚ) < 2 ^ ((coefficient.log2 : Int) + 1) := by
    exact_mod_cast @Nat.lt_log2_self coefficient
  have hpower : (10 : ℚ) ^ power ≤ 2 ^ (3 * power) := by
    have hinverse : (2 : ℚ) ^ (3 * -power) ≤ 10 ^ (-power) := two_zpow_le_ten_zpow (by omega)
    rw [Int.mul_neg, zpow_neg, zpow_neg] at hinverse
    exact (inv_le_inv₀ (by positivity) (by positivity)).mp hinverse
  rw [zpow_add₀ two_ne_zero]
  calc coefficient * (10 : ℚ) ^ power
      ≤ coefficient * 2 ^ (3 * power) := mul_le_mul_of_nonneg_left hpower (by positivity)
    _ < 2 ^ ((coefficient.log2 : Int) + 1) * 2 ^ (3 * power) :=
        mul_lt_mul_of_pos_right hsize (by positivity)

theorem overflowBound_bounds : 1 ≤ overflowBound ∧ overflowBound ≤ 2 ^ (1024 : Int) := by
  have hpow : (1 : ℚ) ≤ 2 ^ 970 := one_le_pow₀ one_le_two
  have htop : (2 : ℚ) ^ (1024 : Int) = 2 ^ 54 * 2 ^ 970 := by
    rw [← pow_add]
    exact zpow_natCast 2 1024
  rw [overflowBound, htop]
  generalize (2 : ℚ) ^ 970 = top at hpow
  constructor <;> linarith

/-- A decimal is rounded to an infinity from the overflow bound on, else to a finite number. -/
theorem ofDecimal_spec (negative : Bool) (coefficient : Nat) (power : Int) :
    overflowBound ≤ coefficient * (10 : ℚ) ^ power ∧
        ofDecimal negative coefficient power = .infinite negative ∨
      coefficient * (10 : ℚ) ^ power < overflowBound ∧
        ∃ mantissa exponent, ofDecimal negative coefficient power =
          .finite negative mantissa exponent := by
  obtain ⟨hone, htop⟩ := overflowBound_bounds
  by_cases hzero : coefficient = 0
  · right
    rw [hzero, Nat.cast_zero, zero_mul]
    exact ⟨by linarith, 0, leastExponent, rfl⟩
  simp only [ofDecimal, if_neg hzero]
  by_cases hpower : 0 ≤ power
  · rw [if_pos hpower]
    split
    · rename_i hsize
      left
      refine ⟨htop.trans ?_, rfl⟩
      exact (zpow_le_zpow_right₀ one_le_two hsize.le).trans (two_zpow_le_decimal hzero hpower)
    · have hfraction : ((coefficient * Nat.pow 10 power.toNat : Nat) : ℚ) / (1 : Nat) =
          coefficient * 10 ^ power := by
        obtain ⟨exponent, rfl⟩ := Int.eq_ofNat_of_zero_le hpower
        rw [zpow_natCast, Int.toNat_natCast, Nat.cast_one, div_one, Nat.pow_eq]
        push_cast
        ring
      rw [← hfraction]
      exact nearest_spec negative Nat.one_pos
  · rw [if_neg hpower]
    split
    · rename_i hsize
      right
      refine ⟨lt_of_lt_of_le ?_ hone, 0, leastExponent, rfl⟩
      exact (decimal_lt_two_zpow coefficient (by omega)).trans_le
        (zpow_le_one_of_nonpos₀ one_le_two (by omega))
    · have hfraction : (coefficient : ℚ) / (Nat.pow 10 (-power).toNat : Nat) =
          coefficient * 10 ^ power := by
        have heq : power = -((-power).toNat : Int) := by omega
        rw [heq, zpow_neg, zpow_natCast, neg_neg, Int.toNat_natCast, ← div_eq_mul_inv, Nat.pow_eq]
        push_cast
        ring
      rw [← hfraction]
      exact nearest_spec negative (Nat.pow_pos (by decide))

/-- Integers of up to fifty-three bits are not rounded. -/
theorem exists_ofDecimal_eq (negative : Bool) {number : Nat} (h : number ≤ 2 ^ 53) :
    ∃ mantissa exponent, ofDecimal negative number 0 = .finite negative mantissa exponent ∧
      magnitude mantissa exponent = number := by
  rcases Nat.eq_zero_or_pos number with rfl | hpos
  · exact ⟨0, leastExponent, rfl, by simp [magnitude]⟩
  have hsize : ¬ (number.log2 : Int) + 3 * 0 > 1024 := by
    have hlt : number < 2 ^ 54 := h.trans_lt (by decide)
    have hlog := (Nat.log2_lt hpos.ne').mpr hlt
    omega
  have hread : ofDecimal negative number 0 = nearest negative number 1 := by
    simp only [ofDecimal, if_neg hpos.ne', if_neg hsize]
    rw [if_pos (Int.le_refl 0), Int.toNat_zero, Nat.pow_eq, Nat.pow_zero, Nat.mul_one]
  -- The greatest of them has a mantissa of one bit less and the exponent one.
  obtain ⟨mantissa, exponent, hmantissa, hleast, hgreatest, hvalue⟩ :
      ∃ mantissa exponent, mantissa < mantissaBound ∧ leastExponent ≤ exponent ∧
        exponent ≤ greatestExponent ∧ magnitude mantissa exponent = number := by
    rcases Nat.lt_or_ge number (2 ^ 53) with hlt | hge
    · exact ⟨number, 0, hlt, by decide, by decide, by simp [magnitude]⟩
    · refine ⟨2 ^ 52, 1, by decide, by decide, by decide, ?_⟩
      rw [Nat.le_antisymm h hge]
      norm_num [magnitude]
  obtain ⟨mantissa', exponent', hnearest, heq⟩ := exists_nearest_eq negative hpos Nat.one_pos
    hmantissa hleast hgreatest (by rw [hvalue, Nat.cast_one, div_one])
  exact ⟨mantissa', exponent', hread.trans hnearest, heq.trans hvalue⟩

end LogSieve.Binary64
