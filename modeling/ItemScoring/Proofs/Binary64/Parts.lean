import Mathlib
import ItemScoring.Proofs.Binary64.Operations

/-!
# The parts of finite numbers

The parts that are decoded from a finite number make its value (`value_of_decode?`), and there are
such parts exactly for finite numbers. So what is done with the parts is done with the value: to
drop the fraction is to take the whole part of the value (`toInteger_of_decode?`).
-/

set_option autoImplicit false

namespace ItemScoring.Binary64

open Float.Model UnpackedFloat

/-! ## Parts and values -/

/-- The mark of a number holds all that its value depends on. -/
theorem value_of_mark? {x : Float} {sign exponent : Int} {mantissa : Nat}
    (h : mark? x = some (sign, exponent, mantissa)) :
    value x = sign * (mantissa * 2 ^ exponent) := by
  unfold mark? at h
  unfold value
  generalize x.toModel.unpack = u at *
  cases u with
  | notANumber => cases h
  | infinity s | zero s =>
      cases s <;> cases h <;> simp [rational]
  | finite s m e positive =>
      cases s <;> cases h <;> simp [rational, Sign.apply]

theorem decode?_of_not_isFinite {x : Float} (h : x.isFinite = false) : decode? x = none := by
  rcases eq_of_not_isFinite h with rfl | rfl | rfl <;> decide +kernel

/-- The mark of a finite number is not that of an infinity. -/
theorem mark?_of_isFinite {x : Float} (finite : x.isFinite = true) :
    ∃ sign exponent mantissa, mark? x = some (sign, exponent, mantissa) ∧ sign.natAbs ≤ 1 := by
  unfold mark?
  have canonical := isCanonical_unpack finite
  generalize x.toModel.unpack = u at canonical
  cases canonical with
  | zero s => exact ⟨0, 0, 0, rfl, by decide⟩
  | finite s positive normalized => cases s <;> exact ⟨_, _, _, rfl, by decide⟩

/-- Every finite number has parts. -/
theorem exists_decode? {x : Float} (finite : x.isFinite = true) : ∃ d, decode? x = some d := by
  obtain ⟨sign, exponent, mantissa, mark, small⟩ := mark?_of_isFinite finite
  unfold decode?
  dsimp only
  by_cases top : x.toBits.toNat / leastNormal % exponentCodes = 2047
  · rw [mark?_eq, markOfParts, if_pos top] at mark
    split at mark
    · cases mark
      omega
    · cases mark
  · exact ⟨_, if_neg top⟩

theorem cast_withSign {sign : Nat} (binary : sign = 0 ∨ sign = 1) (m : Nat) :
    (withSign (sign = 1) m : ℚ) = (1 - 2 * sign : Int) * m := by
  rcases binary with rfl | rfl
  · simp [withSign]
  · norm_num [withSign]

/-- The parts of a number make its value, and the mantissa has 53 digits at most. -/
theorem value_of_decode? {x : Float} {d : Dyadic} (h : decode? x = some d) :
    value x = withSign d.negative d.mantissa * 2 ^ d.exponent ∧ d.mantissa < 2 * leastNormal := by
  have below := x.toBits.toNat_lt
  have sign : x.toBits.toNat / signBit = 0 ∨ x.toBits.toNat / signBit = 1 := by
    unfold signBit
    omega
  have few : x.toBits.toNat % leastNormal < leastNormal := Nat.mod_lt _ (by decide)
  have mark := mark?_eq x
  unfold decode? at h
  dsimp only at h
  split at h
  · cases h
  next notTop =>
    cases h
    dsimp only
    rw [markOfParts, if_neg notTop] at mark
    generalize x.toBits.toNat % leastNormal = fraction at *
    generalize x.toBits.toNat / leastNormal % exponentCodes = biased at *
    by_cases bottom : biased = 0
    · rw [if_pos bottom] at mark
      rw [if_pos bottom, if_pos bottom]
      refine ⟨?_, by omega⟩
      by_cases none : fraction = 0
      · rw [if_pos none] at mark
        rw [value_of_mark? mark, none, cast_withSign sign]
        simp
      · rw [if_neg none] at mark
        rw [value_of_mark? mark, cast_withSign sign, mul_assoc]
        rfl
    · rw [if_neg bottom] at mark
      rw [if_neg bottom, if_neg bottom]
      refine ⟨?_, by omega⟩
      rw [value_of_mark? mark, cast_withSign sign, mul_assoc, add_comm leastNormal]

theorem isFinite_of_decode? {x : Float} {d : Dyadic} (h : decode? x = some d) :
    x.isFinite = true := by
  by_contra notFinite
  rw [decode?_of_not_isFinite (by simpa using notFinite)] at h
  cases h

/-! ## Whole parts -/

/-- An integer and what is left of a number when its fraction is dropped. -/
def wholePart (q : ℚ) : Int := if 0 ≤ q then ⌊q⌋ else ⌈q⌉

theorem wholePart_neg (q : ℚ) : wholePart (-q) = -wholePart q := by
  unfold wholePart
  rcases lt_trichotomy q 0 with negative | rfl | positive
  · rw [if_pos (by linarith), if_neg (by linarith), Int.floor_neg]
  · simp
  · rw [if_neg (by linarith), if_pos positive.le, Int.ceil_neg]

/-- The magnitude of the whole part is the magnitude rounded down. -/
theorem wholePart_withSign (negative : Bool) {q : ℚ} (nonneg : 0 ≤ q) :
    wholePart (withSign negative 1 * q) = withSign negative ⌊q⌋₊ := by
  have positive : wholePart q = ⌊q⌋₊ := by
    rw [wholePart, if_pos nonneg, Int.natCast_floor_eq_floor nonneg]
  cases negative with
  | false => simpa [withSign] using positive
  | true => simpa [withSign, wholePart_neg] using positive

/-- The whole part has a smaller magnitude than an integer exactly if the number has. -/
theorem natAbs_wholePart_lt {q : ℚ} {n : Nat} : (wholePart q).natAbs < n ↔ |q| < n := by
  have magnitude : (wholePart q).natAbs = ⌊|q|⌋₊ := by
    rcases le_or_gt 0 q with nonneg | negative
    · have whole := wholePart_withSign false nonneg
      rw [abs_of_nonneg nonneg]
      simpa [withSign] using congrArg Int.natAbs whole
    · have whole := wholePart_withSign true (neg_nonneg.2 negative.le)
      rw [abs_of_neg negative]
      simpa [withSign] using congrArg Int.natAbs whole
  rw [magnitude, Nat.floor_lt (abs_nonneg q)]

theorem withSign_eq_mul (negative : Bool) (m : Nat) :
    withSign negative m = withSign negative 1 * m := by
  cases negative <;> simp [withSign]

/-- A scaled mantissa is a quotient of integers, one of which takes up the power of two. -/
theorem mul_two_zpow_eq_div (m : Nat) (e : Int) :
    (m : ℚ) * 2 ^ e = (m * 2 ^ e.toNat : Nat) / (2 ^ (-e).toNat : Nat) := by
  rcases le_total 0 e with positive | negative
  · obtain ⟨k, rfl⟩ := Int.eq_ofNat_of_zero_le positive
    simp
  · obtain ⟨k, rfl⟩ := Int.exists_eq_neg_ofNat negative
    simp [zpow_neg, div_eq_mul_inv]

/-- Dropping the fraction of the parts drops the fraction of the value. -/
theorem toInteger_towardZero (d : Dyadic) :
    d.toInteger .towardZero = wholePart (withSign d.negative d.mantissa * 2 ^ d.exponent) := by
  have magnitude : ⌊(d.mantissa : ℚ) * 2 ^ d.exponent⌋₊ =
      d.mantissa * 2 ^ d.exponent.toNat / 2 ^ (-d.exponent).toNat := by
    rw [mul_two_zpow_eq_div, Nat.floor_div_eq_div]
  rw [withSign_eq_mul, Int.cast_mul, mul_assoc, Int.cast_natCast,
    wholePart_withSign _ (by positivity), magnitude]
  unfold Dyadic.toInteger Dyadic.scaled
  rw [Nat.mul_one]
  rfl

theorem toInteger_of_decode? {x : Float} {d : Dyadic} (decoded : decode? x = some d) :
    d.toInteger .towardZero = wholePart (value x) := by
  rw [toInteger_towardZero, (value_of_decode? decoded).1]

end ItemScoring.Binary64
