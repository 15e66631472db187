import Mathlib
import ItemScoring.Numeric.Decimal
import ItemScoring.Proofs.Binary64.Magnitude

/-!
# The range of decimals

A library of decimal arithmetic has decimals for numbers in a limited range only, and whatever
decimal it converts back is a finite number. Nothing else about it is used. The built-in arithmetic
is such a library (`DecimalArithmetic.lawful_builtIn`): it doubles the mantissa once for each power
of two, and a mantissa of more than 96 bits is refused.
-/

set_option autoImplicit false

namespace ItemScoring

open Binary64

/-- What is documented of a library of decimal arithmetic with mantissas of 96 bits. -/
structure DecimalArithmetic.Lawful (decimals : DecimalArithmetic) : Prop where
  /-- The decimals reach up to `2 ^ 96 - 1`, and no number beyond them has one. -/
  inRange : ∀ {x : Float} {d : Fixed}, decimals.ofFloat? x = some d → |value x| ≤ 2 ^ 96
  /-- All decimals are in the range of binary numbers. -/
  finite : ∀ {d : Fixed} {y : Float}, decimals.toFloat? d = some y → y.isFinite = true

/-! ## The built-in arithmetic -/

namespace Fixed

/-- Divisions by five are removed by doubling alone, and only if the product fits. -/
theorem removeFifths_eq (n : Nat) {m : Nat} (small : m < mantissaBound) :
    removeFifths n m n = if m * 2 ^ n < mantissaBound then some (m * 2 ^ n, 0) else none := by
  induction n generalizing m with
  | zero => simp [removeFifths, small]
  | succ n ih =>
      have doubled : m * 2 * 2 ^ n = m * 2 ^ (n + 1) := by ring
      unfold removeFifths
      split
      next fits =>
        rw [Nat.cast_succ, add_sub_cancel_right, ih fits, doubled]
      next tooGreat =>
        have power : 1 ≤ 2 ^ n := Nat.one_le_two_pow
        rw [if_pos (by omega), if_neg]
        rw [← doubled]
        exact fun fits => tooGreat ((Nat.le_mul_of_pos_right _ power).trans_lt fits)

/-- A whole number that has a decimal is below the bound of the mantissas. -/
theorem lt_of_ofBinary? {d : Binary64.Dyadic} {f : Fixed} (h : ofBinary? d = some f)
    (small : d.mantissa < mantissaBound) :
    d.mantissa * 2 ^ d.exponent.toNat < mantissaBound := by
  unfold ofBinary? tradePowers? at h
  obtain ⟨traded, found, -⟩ := Option.bind_eq_some_iff.1 h
  split at found
  next nonpos =>
    rwa [Int.toNat_of_nonpos nonpos, pow_zero, mul_one]
  next positive =>
    have exponent : d.exponent = d.exponent.toNat := by omega
    rw [exponent, Int.toNat_natCast, removeFifths_eq _ small] at found
    by_contra tooGreat
    rw [if_neg tooGreat] at found
    cases found

end Fixed

theorem DecimalArithmetic.lawful_builtIn : builtIn.Lawful where
  inRange {x f} h := by
    obtain ⟨d, decoded, found⟩ := Option.bind_eq_some_iff.1 h
    obtain ⟨exact, digits⟩ := value_of_decode? decoded
    have whole := Fixed.lt_of_ofBinary? found (digits.trans (by decide))
    have sign : |(withSign d.negative 1 : ℚ)| = 1 := by cases d.negative <;> norm_num [withSign]
    have power : (2 : ℚ) ^ d.exponent ≤ 2 ^ d.exponent.toNat := by
      rw [← zpow_natCast]
      exact zpow_le_zpow_right₀ one_le_two (Int.self_le_toNat _)
    rw [exact, withSign_eq_mul, Int.cast_mul, Int.cast_natCast, mul_assoc, abs_mul, sign, one_mul,
      abs_of_nonneg (by positivity)]
    calc (d.mantissa : ℚ) * 2 ^ d.exponent ≤ d.mantissa * 2 ^ d.exponent.toNat := by gcongr
      _ ≤ Fixed.mantissaBound := by exact_mod_cast whole.le
      _ = 2 ^ 96 := by norm_num [Fixed.mantissaBound]
  finite {d y} h := by
    obtain ⟨-, finite⟩ := (Option.filter_eq_some_iff (o := some d.toBinary)).1 h
    exact finite

/-! ## Powers of ten -/

/-- The powers of ten that are used are finite, not less than one and less than `2 ^ 94`. -/
theorem Binary64.power_bounds : ∀ k : Fin 29, (power 10 k).isFinite = true ∧ 1 ≤ power 10 k ∧
    power 10 k ≤ ofInteger (2 ^ 94) := by
  decide +kernel

theorem Binary64.isWithin_power {k : Nat} (few : k ≤ 28) :
    IsWithin 94 (power 10 k) ∧ 1 ≤ |value (power 10 k)| := by
  obtain ⟨finite, one, small⟩ := power_bounds ⟨k, Nat.lt_succ_of_le few⟩
  dsimp only at finite one small
  have bound : IsWithin 94 (ofInteger (2 ^ 94)) := isWithin_ofInteger (by decide) (by decide)
  rw [le_iff_value isFinite_one finite, value_one] at one
  rw [le_iff_value finite bound.finite] at small
  have positive : 0 ≤ value (power 10 k) := zero_le_one.trans one
  rw [abs_of_nonneg positive]
  refine ⟨⟨finite, ?_⟩, one⟩
  rw [abs_of_nonneg positive]
  exact small.trans ((le_abs_self _).trans bound.abs_le)

end ItemScoring
