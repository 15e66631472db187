import Mathlib
import ItemScoring.Numeric.Numeral
import ItemScoring.Proofs.Binary64.Parts

/-!
# Decimals as floating-point numbers

A number that is given by decimal digits and a power of ten becomes a floating-point number in one
of three ways. If the digits and the power are floating-point numbers themselves, one is multiplied
or divided by the other. Magnitudes far outside the range are settled from the number of digits.
Else the exact product or quotient is rounded. Either way the result has the place of the decimal
among the finite numbers (`rounds_ofDecimal`), and so has that of an integer of any size
(`rounds_ofInteger`).
-/

set_option autoImplicit false

namespace ItemScoring.Binary64

open Float.Model UnpackedFloat

/-! ## Exact results and infinities -/

/-- A finite number has its own place. -/
theorem rounds_value {x : Float} (finite : x.isFinite = true) : Rounds (value x) x where
  le hy le := (le_iff_value finite hy).2 le
  ge hy le := (le_iff_value hy finite).2 le

theorem unpack_infinity : (1 / 0 : Float).toModel.unpack = .infinity .positive := rfl

theorem unpack_neg_infinity : (-(1 / 0) : Float).toModel.unpack = .infinity .negative := rfl

section Infinity

variable {y : Float} (finite : y.isFinite = true)
include finite

theorem le_infinity : y ≤ 1 / 0 := by
  rw [le_iff, unpack_infinity, (compare_infinity (isCanonical_unpack finite)).1]
  rfl

theorem not_infinity_le : ¬ 1 / 0 ≤ y := by
  rw [le_iff, unpack_infinity, (infinity_compare (isCanonical_unpack finite)).1]
  exact nofun

theorem neg_infinity_le : -(1 / 0) ≤ y := by
  rw [le_iff, unpack_neg_infinity, (infinity_compare (isCanonical_unpack finite)).2]
  rfl

theorem not_le_neg_infinity : ¬ y ≤ -(1 / 0) := by
  rw [le_iff, unpack_neg_infinity, (compare_infinity (isCanonical_unpack finite)).2]
  exact nofun

/-- Signs may change sides. -/
theorem neg_le_iff (z : Float) : (-z ≤ y ↔ -y ≤ z) ∧ (y ≤ -z ↔ z ≤ -y) := by
  have finite' := isFinite_neg finite
  cases kind : z.isFinite with
  | true =>
      have finite'' := isFinite_neg kind
      rw [le_iff_value finite'' finite, le_iff_value finite' kind, le_iff_value finite finite'',
        le_iff_value kind finite', value_neg kind, value_neg finite]
      exact ⟨neg_le, le_neg⟩
  | false =>
      rcases eq_of_not_isFinite kind with rfl | rfl | rfl
      · have first : (-(0 / 0) : Float).toModel.unpack = .notANumber := rfl
        have second : (0 / 0 : Float).toModel.unpack = .notANumber := rfl
        have less : ∀ u : UnpackedFloat, notANumber.compare u = none := fun u => by cases u <;> rfl
        have greater : ∀ u : UnpackedFloat, u.compare notANumber = none := fun u => by
          cases u <;> rfl
        rw [le_iff, le_iff, le_iff, le_iff, first, second, less, less, greater, greater]
        exact ⟨Iff.rfl, Iff.rfl⟩
      · exact ⟨iff_of_true (neg_infinity_le finite) (le_infinity finite'),
          iff_of_false (not_le_neg_infinity finite) (not_infinity_le finite')⟩
      · have twice : -(-(1 / 0)) = (1 / 0 : Float) := by decide +kernel
        rw [twice]
        exact ⟨iff_of_false (not_infinity_le finite) (not_le_neg_infinity finite'),
          iff_of_true (le_infinity finite) (neg_infinity_le finite')⟩

end Infinity

/-- The opposite number has the opposite place. -/
theorem Rounds.neg {q : ℚ} {z : Float} (h : Rounds q z) : Rounds (-q) (-z) where
  le {y} hy le := (neg_le_iff hy z).1.2 (h.ge (isFinite_neg hy) (by
    rw [value_neg hy]
    linarith))
  ge {y} hy le := (neg_le_iff hy z).2.2 (h.le (isFinite_neg hy) (by
    rw [value_neg hy]
    linarith))

/-- What is greater than all finite numbers has the place of the infinity. -/
theorem rounds_infinity {q : ℚ} (great : 2 ^ (1024 : Int) ≤ q) : Rounds q (1 / 0) where
  le {y} _ le := by
    have small := (abs_lt.1 (abs_value_lt y)).2
    linarith
  ge hy _ := le_infinity hy

/-- No positive number is less than the least power of two. -/
theorem two_zpow_le_value {y : Float} (finite : y.isFinite = true) (positive : 0 < value y) :
    2 ^ (-1074 : Int) ≤ value y := by
  unfold value at *
  have canonical := isCanonical_unpack finite
  generalize y.toModel.unpack = u at *
  cases canonical with
  | zero s => exact absurd positive (lt_irrefl _)
  | @finite s m e some normalized =>
      cases s with
      | negative => exact absurd (rational_negative_neg some) positive.not_gt
      | positive =>
          have one : (1 : ℚ) ≤ m := by exact_mod_cast some
          have least := normalized.least
          rw [rational_positive]
          calc (2 : ℚ) ^ (-1074 : Int) ≤ 2 ^ e := zpow_le_zpow_right₀ one_le_two least
            _ ≤ m * 2 ^ e := le_mul_of_one_le_left (by positivity) one

/-- What is positive and less than all positive numbers has the place of zero. -/
theorem rounds_zero {q : ℚ} (positive : 0 < q) (small : q < 2 ^ (-1074 : Int)) : Rounds q 0 where
  le {y} hy le := by
    rw [le_iff_value isFinite_zero hy, value_zero]
    linarith
  ge {y} hy le := by
    rw [le_iff_value hy isFinite_zero, value_zero]
    by_contra above
    have := two_zpow_le_value hy (not_le.1 above)
    linarith

/-! ## Digits and powers of ten -/

/-- A power of ten that is a floating-point number: a power of five fills its mantissa. -/
theorem mark?_powerOfTen : ∀ i : Fin Float.exactlyRepresentablePowersOfTen.size,
    mark? Float.exactlyRepresentablePowersOfTen[i.val] =
      some (1, (i : Int) - (52 - (5 ^ i.val).log2 : Nat),
        5 ^ i.val * 2 ^ (52 - (5 ^ i.val).log2)) := by
  decide +kernel

theorem isFinite_powerOfTen : ∀ i : Fin Float.exactlyRepresentablePowersOfTen.size,
    Float.exactlyRepresentablePowersOfTen[i.val].isFinite = true := by
  decide +kernel

theorem value_powerOfTen {k : Nat} (listed : k < Float.exactlyRepresentablePowersOfTen.size) :
    value Float.exactlyRepresentablePowersOfTen[k] = 10 ^ k := by
  rw [value_of_mark? (mark?_powerOfTen ⟨k, listed⟩)]
  generalize 52 - (5 ^ k).log2 = d
  have factors : (5 : ℚ) ^ k * 2 ^ k = 10 ^ k := by
    rw [← mul_pow]
    norm_num
  push_cast
  rw [zpow_sub₀ two_ne_zero, zpow_natCast, zpow_natCast, one_mul, mul_assoc,
    mul_div_cancel₀ _ (by positivity), factors]

theorem two_pow_exponentBits : (2 : Int) ^ Format.binary64.exponentBits = 2048 := rfl

/-- The exact product or quotient of digits and a power of ten is rounded. -/
theorem isRounded_ofScientific {m : Nat} (positive : m ≠ 0) {e : Int} (high : e ≤ 2048)
    (low : -(2048 + m.log2) ≤ e) :
    IsRounded (m * 10 ^ e) (UnpackedFloat.ofScientific Format.binary64 m e) := by
  rw [UnpackedFloat.ofScientific, dif_neg positive, two_pow_exponentBits, if_neg high.not_gt,
    if_neg low.not_gt]
  rcases le_or_gt 0 e with whole | fraction
  · obtain ⟨k, rfl⟩ := Int.eq_ofNat_of_zero_le whole
    rw [if_pos whole]
    -- The digits are shifted to the left until they fill a mantissa.
    have digits : m <<< 53 * 10 ^ k = m * 10 ^ k * 2 ^ 53 := by
      rw [Nat.shiftLeft_eq, mul_right_comm]
    have nonzero : m * 10 ^ k ≠ 0 := mul_ne_zero positive (by positivity)
    have filled : (53 : Int) ≤ (m <<< 53 * 10 ^ k).log2 := by
      rw [digits, log2_mul_two_pow nonzero]
      omega
    have rounded := (isCutTo_exact (m <<< 53 * 10 ^ k) (-53)).isRounded
      (by omega) .positive
    have exact : ((Sign.positive.apply 1 : Int) : ℚ) *
        ((m <<< 53 * 10 ^ k : Nat) * 2 ^ (-53 : Int)) = m * 10 ^ (k : Int) := by
      rw [digits, zpow_neg, zpow_natCast]
      push_cast [Sign.apply]
      field_simp
    exact exact ▸ rounded
  · obtain ⟨k, rfl⟩ := Int.exists_eq_neg_ofNat fraction.le
    rw [if_neg fraction.not_ge]
    unfold UnpackedFloat.div
    dsimp only
    rw [neg_neg, Int.toNat_natCast]
    have rounded := isRounded_divCore .positive (Nat.pos_of_ne_zero positive)
      (Nat.pow_pos (n := k) (by decide : 0 < 10)) 0 0
    have exact : ((Sign.positive.apply 1 : Int) : ℚ) *
        (m * 2 ^ (0 : Int) / ((10 ^ k : Nat) * 2 ^ (0 : Int))) = m * 10 ^ (-k : Int) := by
      rw [zpow_neg, zpow_natCast, ← div_eq_mul_inv]
      push_cast [Sign.apply]
      norm_num
    exact exact ▸ rounded

/-- Ten is more than three powers of two. -/
theorem two_zpow_le_ten_zpow {e : Int} (nonneg : 0 ≤ e) : (2 : ℚ) ^ (3 * e) ≤ 10 ^ e := by
  rw [zpow_mul]
  exact zpow_le_zpow_left₀ nonneg (by norm_num) (by norm_num)

theorem ten_zpow_le_two_zpow {e : Int} (nonpos : e ≤ 0) : (10 : ℚ) ^ e ≤ 2 ^ (3 * e) := by
  obtain ⟨k, rfl⟩ := Int.exists_eq_neg_ofNat nonpos
  rw [mul_neg, zpow_neg, zpow_neg]
  exact inv_anti₀ (by positivity) (two_zpow_le_ten_zpow (by omega))

/-- Powers of ten that are too great or too small for their digits are not computed. -/
theorem rounds_model_ofScientific {m : Nat} (positive : m ≠ 0) (e : Int) :
    Rounds (m * 10 ^ e) (.ofModel (Float.Model.ofScientific m e)) := by
  have least : (1 : ℚ) ≤ m := by exact_mod_cast Nat.pos_of_ne_zero positive
  rcases le_or_gt e 2048 with high | tooHigh
  · rcases le_or_gt (-(2048 + m.log2 : Int)) e with low | tooLow
    · exact (isRounded_ofScientific positive high low).rounds rfl
    · have zero : Float.ofModel (Float.Model.ofScientific m e) = 0 := by
        rw [Float.Model.ofScientific, UnpackedFloat.ofScientific, dif_neg positive,
          two_pow_exponentBits, if_neg high.not_gt, if_pos tooLow]
        rfl
      have digits : (m : ℚ) < 2 ^ ((m.log2 + 1 : Nat) : Int) := by
        exact_mod_cast Nat.lt_log2_self
      rw [zero]
      refine rounds_zero (by positivity) ?_
      calc (m : ℚ) * 10 ^ e < 2 ^ ((m.log2 + 1 : Nat) : Int) * 10 ^ e := by gcongr
        _ ≤ 2 ^ ((m.log2 + 1 : Nat) : Int) * 2 ^ (3 * e) := by
          gcongr
          exact ten_zpow_le_two_zpow (by omega)
        _ = 2 ^ (((m.log2 + 1 : Nat) : Int) + 3 * e) := (zpow_add₀ two_ne_zero _ _).symm
        _ ≤ 2 ^ (-1074 : Int) := zpow_le_zpow_right₀ one_le_two (by omega)
  · have infinity : Float.ofModel (Float.Model.ofScientific m e) = 1 / 0 := by
      rw [Float.Model.ofScientific, UnpackedFloat.ofScientific, dif_neg positive,
        two_pow_exponentBits, if_pos tooHigh]
      decide +kernel
    rw [infinity]
    refine rounds_infinity ?_
    calc (2 : ℚ) ^ (1024 : Int) ≤ 2 ^ (3 * e) := zpow_le_zpow_right₀ one_le_two (by omega)
      _ ≤ 10 ^ e := two_zpow_le_ten_zpow (by omega)
      _ ≤ m * 10 ^ e := le_mul_of_one_le_left (by positivity) least

/-- Digits that fit into a mantissa are multiplied or divided by a power of ten that is listed. -/
theorem rounds_ofScientific (m : Nat) (e : Int) :
    Rounds (m * 10 ^ e) (Float.ofScientific m (e < 0) e.natAbs) := by
  by_cases fast : m < 2 ^ 53 ∧ e.natAbs ≤ 22
  · have listed : e.natAbs < Float.exactlyRepresentablePowersOfTen.size := Nat.lt_succ_of_le fast.2
    have few := hasValue_toFloat fast.1
    have finite := isFinite_of_isCanonical few.isCanonical
    have exact : value m.toUInt64.toFloat = m := few.rational_eq
    have power := isFinite_powerOfTen ⟨_, listed⟩
    rw [Float.ofScientific, dif_pos fast]
    rcases le_or_gt 0 e with whole | fraction
    · have product := rounds_mul finite power
      rw [exact, value_powerOfTen listed, ← zpow_natCast, Int.natAbs_of_nonneg whole] at product
      rwa [decide_eq_false whole.not_gt, if_neg Bool.false_ne_true]
    · have quotient := rounds_div finite power (by rw [value_powerOfTen listed]; positivity)
      rw [exact, value_powerOfTen listed, ← zpow_natCast, div_eq_mul_inv, ← zpow_neg,
        Int.ofNat_natAbs_of_nonpos fraction.le, neg_neg] at quotient
      rwa [decide_eq_true fraction, if_pos rfl]
  · have exponent : (if decide (e < 0) then Int.negOfNat e.natAbs else Int.ofNat e.natAbs) = e := by
      rcases le_or_gt 0 e with whole | fraction
      · rw [decide_eq_false whole.not_gt, if_neg Bool.false_ne_true]
        exact Int.natAbs_of_nonneg whole
      · obtain ⟨k, rfl⟩ := Int.exists_eq_neg_ofNat fraction.le
        rw [decide_eq_true fraction, if_pos rfl, Int.natAbs_neg]
        exact Int.negOfNat_eq
    rw [Float.ofScientific, dif_neg fast]
    dsimp only
    rw [exponent]
    rcases eq_or_ne m 0 with rfl | positive
    · rw [Nat.cast_zero, zero_mul]
      exact (IsCanonical.zero .positive).isRounded.rounds rfl
    · exact rounds_model_ofScientific positive e

/-- An integer of any size becomes the number that is nearest. -/
theorem rounds_ofInteger (n : Int) : Rounds n (ofInteger n) := by
  have natural (n : Nat) : Rounds n (Float.ofNat n) := by
    have exact := rounds_ofScientific n 0
    rwa [zpow_zero, mul_one] at exact
  cases n with
  | ofNat n => exact natural n
  | negSucc n =>
      have negative : ((Int.negSucc n : Int) : ℚ) = -((n + 1 : Nat) : ℚ) := by
        push_cast [Int.negSucc_eq]
        ring
      rw [negative]
      exact (natural (n + 1)).neg

/-- The digits of a number bound it. -/
theorem digitCount_bounds {m : Nat} (positive : m ≠ 0) :
    10 ^ (digitCount m - 1) ≤ m ∧ m < 10 ^ digitCount m ∧ 0 < digitCount m := by
  have some : 0 < digitCount m := Nat.length_toDigits_pos
  refine ⟨?_, (Nat.length_toDigits_le_iff (by decide) some).1 le_rfl, some⟩
  rcases Nat.eq_zero_or_pos (digitCount m - 1) with one | more
  · rw [one]
    exact Nat.pos_of_ne_zero positive
  · by_contra less
    have fewer : digitCount m ≤ digitCount m - 1 :=
      (Nat.length_toDigits_le_iff (by decide) more).2 (not_le.1 less)
    omega

/-- Magnitudes that are settled from the number of digits are beyond all finite numbers, or less
than all positive ones. -/
theorem rounds_ofDecimal (m : Nat) (e : Int) : Rounds (m * 10 ^ e) (ofDecimal m e) := by
  unfold ofDecimal
  dsimp only
  split
  next zero =>
    subst zero
    have exact := rounds_value isFinite_zero
    rwa [value_zero, ← zero_mul ((10 : ℚ) ^ e), ← Nat.cast_zero] at exact
  next positive =>
    obtain ⟨low, high, some⟩ := digitCount_bounds positive
    split
    next great =>
      refine rounds_infinity ?_
      calc (2 : ℚ) ^ (1024 : Int) ≤ 2 ^ (3 * 400 : Int) :=
            zpow_le_zpow_right₀ one_le_two (by norm_num)
        _ ≤ 10 ^ (400 : Int) := two_zpow_le_ten_zpow (by norm_num)
        _ ≤ 10 ^ (((digitCount m - 1 : Nat) : Int) + e) :=
          zpow_le_zpow_right₀ (by norm_num) (by omega)
        _ = (10 ^ (digitCount m - 1) : Nat) * 10 ^ e := by
          rw [zpow_add₀ (by norm_num), zpow_natCast]
          norm_num
        _ ≤ m * 10 ^ e := by gcongr
    next notGreat =>
      split
      next small =>
        refine rounds_zero ?_ ?_
        · have : (0 : ℚ) < m := by exact_mod_cast Nat.pos_of_ne_zero positive
          positivity
        calc (m : ℚ) * 10 ^ e < (10 ^ digitCount m : Nat) * 10 ^ e := by gcongr
          _ = 10 ^ ((digitCount m : Int) + e) := by
            rw [zpow_add₀ (by norm_num), zpow_natCast]
            norm_num
          _ ≤ 10 ^ (-400 : Int) := zpow_le_zpow_right₀ (by norm_num) (by omega)
          _ ≤ 2 ^ (3 * -400 : Int) := ten_zpow_le_two_zpow (by norm_num)
          _ ≤ 2 ^ (-1074 : Int) := zpow_le_zpow_right₀ one_le_two (by norm_num)
      next notSmall => exact rounds_ofScientific m e

end ItemScoring.Binary64
