import Mathlib
import ItemScoring.Proofs.Binary64.Decimals

/-!
# Magnitudes of results

A result has the place of the exact number among the finite numbers. So it is finite when the exact
number is no greater than a finite number, and then it is no greater than that number either
(`Rounds.magnitude_le`). A bound that is a power of two is carried through each operation
(`IsWithin`), so a computation whose bounds stay in range never leaves the finite numbers. Rounding
to an integer and dividing by a number that is not less than one need no bound at all
(`isFinite_roundHalfAway`, `isFinite_div`).
-/

set_option autoImplicit false

namespace ItemScoring.Binary64

open Float.Model UnpackedFloat

/-! ## The greatest number -/

/-- The greatest finite number. -/
def largest : Float := .ofBits 0x7FEFFFFFFFFFFFFF

theorem isFinite_largest : largest.isFinite = true := by decide +kernel

theorem value_largest : value largest = (2 * leastNormal - 1 : Nat) * 2 ^ greatestExponent := by
  have mark : mark? largest = some (1, greatestExponent, 2 * leastNormal - 1) := by decide +kernel
  rw [value_of_mark? mark, Int.cast_one, one_mul]

theorem exists_magnitude_largest : ∃ n : Nat, value largest = n :=
  ⟨(2 * leastNormal - 1) * 2 ^ greatestExponent.toNat, by
    rw [value_largest, Nat.cast_mul, Nat.cast_pow]
    rfl⟩

theorem abs_value_le (x : Float) : |value x| ≤ value largest := by
  rw [value_largest]
  unfold value
  cases kind : x.toModel.unpack with
  | finite s m e positive =>
      obtain ⟨normalized, inRange⟩ := unpack_eq_finite kind
      have few : (m : ℚ) ≤ (2 * leastNormal - 1 : Nat) := by
        exact_mod_cast Nat.le_sub_one_of_lt normalized.few
      have sign : |(s.apply 1 : ℚ)| = 1 := by cases s <;> simp [Sign.apply]
      rw [rational, abs_mul, sign, one_mul, abs_of_nonneg (by positivity)]
      gcongr
      norm_num
  | zero | infinity | notANumber =>
      change |(0 : ℚ)| ≤ _
      rw [abs_zero]
      positivity

/-- A result is no greater than a finite number that the exact number is no greater than. -/
theorem Rounds.magnitude_le {q : ℚ} {z y : Float} (h : Rounds q z) (finite : y.isFinite = true)
    (le : |q| ≤ value y) : z.isFinite = true ∧ |value z| ≤ value y := by
  obtain ⟨low, high⟩ := abs_le.1 le
  have finite' := isFinite_neg finite
  have above := h.le finite high
  have below := h.ge finite' (by rwa [value_neg finite])
  have between := isFinite_of_between finite' finite below above
  rw [le_iff_value between finite] at above
  rw [le_iff_value finite' between, value_neg finite] at below
  exact ⟨between, abs_le.2 ⟨below, above⟩⟩

/-- A finite result is no less than a finite number that the exact number is no less than. -/
theorem Rounds.le_magnitude {q : ℚ} {z y : Float} (h : Rounds q z) (finite : y.isFinite = true)
    (le : value y ≤ |q|) (finite' : z.isFinite = true) : value y ≤ |value z| := by
  rcases le_abs.1 le with above | below
  · have ge := (le_iff_value finite finite').1 (h.ge finite above)
    exact ge.trans (le_abs_self _)
  · have negative := isFinite_neg finite
    have ge := (le_iff_value finite' negative).1 (h.le negative (by
      rw [value_neg finite]
      linarith))
    rw [value_neg finite] at ge
    exact le_abs.2 (.inr (by linarith))

/-- Rounding does not cross zero from above. -/
theorem Rounds.value_nonneg {q : ℚ} {z : Float} (h : Rounds q z) (nonneg : 0 ≤ q)
    (finite : z.isFinite = true) : 0 ≤ value z := by
  have above := h.ge isFinite_zero (by rwa [value_zero])
  rwa [le_iff_value isFinite_zero finite, value_zero] at above

/-- Rounding does not cross zero from below. -/
theorem Rounds.value_nonpos {q : ℚ} {z : Float} (h : Rounds q z) (nonpos : q ≤ 0)
    (finite : z.isFinite = true) : value z ≤ 0 := by
  have below := h.le isFinite_zero (by rwa [value_zero])
  rwa [le_iff_value finite isFinite_zero, value_zero] at below

/-- A quotient is finite if the divisor does not make it greater than the dividend. -/
theorem isFinite_div {x y : Float} (first : x.isFinite = true) (second : y.isFinite = true)
    (one : 1 ≤ |value y|) : (x / y).isFinite = true := by
  have nonzero : value y ≠ 0 := abs_pos.1 (one_pos.trans_le one)
  refine ((rounds_div first second nonzero).magnitude_le isFinite_largest ?_).1
  rw [abs_div]
  exact (div_le_self (abs_nonneg _) one).trans (abs_value_le x)

/-- What is not finite stays so when it is divided. -/
theorem not_isFinite_div {x y : Float} (first : x.isFinite = false)
    (second : y.isFinite = true) : (x / y).isFinite = false := by
  have infinity (s : Sign) : (Float.Model.pack (.infinity s)).unpack.isFinite = false := by
    cases s <;> decide +kernel
  have nothing : (Float.Model.pack .notANumber).unpack.isFinite = false := by decide +kernel
  change (Float.Model.pack (UnpackedFloat.div Format.binary64 x.toModel.unpack
    y.toModel.unpack)).unpack.isFinite = false
  change x.toModel.unpack.isFinite = false at first
  have canonical := isCanonical_unpack second
  generalize x.toModel.unpack = u at *
  generalize y.toModel.unpack = v at *
  cases u with
  | notANumber => cases canonical <;> exact nothing
  | infinity s => cases canonical <;> exact infinity _
  | zero | finite => cases first

/-! ## Rounding to an integer -/

/-- Rounding to an integer never goes beyond an integer. -/
theorem Direction.round_le (direction : Direction) (negative : Bool) {m d n : Nat}
    (positive : 0 < d) (le : m ≤ n * d) : direction.round negative m d ≤ n := by
  have whole : m / d ≤ n := Nat.div_le_of_le_mul (by rwa [mul_comm])
  -- The quotient is raised only if there is a remainder.
  have raised {away : Bool} (rest : away = true → m % d ≠ 0) :
      (if away then m / d + 1 else m / d) ≤ n := by
    cases away with
    | false => exact whole
    | true =>
        refine Nat.lt_of_le_of_ne whole fun same => rest rfl ?_
        have division := Nat.div_add_mod m d
        rw [same, mul_comm] at division
        omega
  unfold Direction.round
  cases direction with
  | towardZero => exact whole
  | down | up => exact raised fun away => by simpa using (Bool.and_eq_true_iff.1 away).2
  | nearestAway => exact raised fun away => by have := of_decide_eq_true away; omega
  | nearestEven =>
      refine raised fun away => ?_
      simp only [Bool.or_eq_true, decide_eq_true_iff, Bool.and_eq_true, beq_iff_eq] at away
      omega

theorem natAbs_withSign (negative : Bool) (m : Nat) : (withSign negative m).natAbs = m := by
  cases negative <;> simp [withSign]

theorem toInteger_natAbs_le {x : Float} {d : Dyadic} (direction : Direction) {n : Nat}
    (decoded : decode? x = some d) (le : |value x| ≤ n) : (d.toInteger direction).natAbs ≤ n := by
  have sign : |(withSign d.negative 1 : ℚ)| = 1 := by cases d.negative <;> norm_num [withSign]
  rw [(value_of_decode? decoded).1, withSign_eq_mul, Int.cast_mul, Int.cast_natCast, mul_assoc,
    abs_mul, sign, one_mul, abs_of_nonneg (by positivity), mul_two_zpow_eq_div,
    div_le_iff₀ (by positivity)] at le
  unfold Dyadic.toInteger Dyadic.scaled
  rw [natAbs_withSign, mul_one]
  exact direction.round_le _ (Nat.two_pow_pos _) (by exact_mod_cast le)

/-- Rounding to an integer keeps each bound that is an integer. -/
theorem roundHalfAway_magnitude_le {x y : Float} {n : Nat} (first : x.isFinite = true)
    (second : y.isFinite = true) (whole : value y = n) (le : |value x| ≤ n) :
    (roundHalfAway x).isFinite = true ∧ |value (roundHalfAway x)| ≤ n := by
  obtain ⟨d, decoded⟩ := exists_decode? first
  have small : |((d.toInteger .nearestAway : Int) : ℚ)| ≤ n := by
    rw [← Int.cast_abs, Int.abs_eq_natAbs]
    exact_mod_cast toInteger_natAbs_le .nearestAway decoded le
  have zero : (0 : Float).isFinite = true ∧ |value 0| ≤ n := by
    rw [value_zero, abs_zero]
    exact ⟨isFinite_zero, by positivity⟩
  unfold roundHalfAway
  rw [decoded]
  dsimp only
  split
  · split
    · change (-(0 : Float)).isFinite = true ∧ |value (-(0 : Float))| ≤ n
      rw [value_neg zero.1, abs_neg]
      exact ⟨isFinite_neg zero.1, zero.2⟩
    · exact zero
  · exact whole ▸ (rounds_ofInteger _).magnitude_le second (whole.symm ▸ small)

theorem isFinite_roundHalfAway {x : Float} (finite : x.isFinite = true) :
    (roundHalfAway x).isFinite = true := by
  obtain ⟨n, whole⟩ := exists_magnitude_largest
  exact (roundHalfAway_magnitude_le finite isFinite_largest whole
    (whole ▸ abs_value_le x)).1

/-! ## Bounds that are powers of two -/

/-- A finite number that a power of two bounds. -/
structure IsWithin (e : Nat) (x : Float) : Prop where
  finite : x.isFinite = true
  abs_le : |value x| ≤ 2 ^ e

/-- Powers of two are numbers up to this exponent. -/
theorem exists_value_two_pow {e : Nat} (range : e ≤ 1023) :
    ∃ y : Float, y.isFinite = true ∧ value y = (2 ^ e : Nat) := by
  obtain ⟨y, finite, exact⟩ := exists_value_two_zpow (e := e) (by omega) (by omega)
  refine ⟨y, finite, ?_⟩
  rw [exact, zpow_natCast]
  norm_cast

theorem Rounds.isWithin {q : ℚ} {z : Float} {e : Nat} (h : Rounds q z) (le : |q| ≤ 2 ^ e)
    (range : e ≤ 1023) : IsWithin e z := by
  obtain ⟨y, finite, exact⟩ := exists_value_two_pow range
  push_cast at exact
  obtain ⟨finite', small⟩ := h.magnitude_le finite (exact ▸ le)
  exact ⟨finite', exact ▸ small⟩

theorem isWithin_ofInteger {n : Int} {e : Nat} (le : n.natAbs ≤ 2 ^ e) (range : e ≤ 1023) :
    IsWithin e (ofInteger n) := by
  refine (rounds_ofInteger n).isWithin ?_ range
  rw [← Int.cast_abs, Int.abs_eq_natAbs]
  exact_mod_cast le

section Operations

variable {x y : Float} {e f : Nat} (first : IsWithin e x)
include first

theorem IsWithin.mono (le : e ≤ f) : IsWithin f x :=
  ⟨first.finite, first.abs_le.trans (pow_le_pow_right₀ one_le_two le)⟩

theorem IsWithin.neg : IsWithin e (-x) :=
  ⟨isFinite_neg first.finite, by rw [value_neg first.finite, abs_neg]; exact first.abs_le⟩

theorem IsWithin.add (second : IsWithin e y) (range : e + 1 ≤ 1023) : IsWithin (e + 1) (x + y) := by
  refine (rounds_add first.finite second.finite).isWithin ?_ range
  calc |value x + value y| ≤ |value x| + |value y| := abs_add_le _ _
    _ ≤ 2 ^ e + 2 ^ e := add_le_add first.abs_le second.abs_le
    _ = 2 ^ (e + 1) := by ring

theorem IsWithin.mul (second : IsWithin f y) (range : e + f ≤ 1023) :
    IsWithin (e + f) (x * y) := by
  refine (rounds_mul first.finite second.finite).isWithin ?_ range
  rw [abs_mul, pow_add]
  exact mul_le_mul first.abs_le second.abs_le (abs_nonneg _) (by positivity)

theorem IsWithin.div (second : y.isFinite = true) (one : 1 ≤ |value y|) (range : e ≤ 1023) :
    IsWithin e (x / y) := by
  have nonzero : value y ≠ 0 := abs_pos.1 (one_pos.trans_le one)
  refine (rounds_div first.finite second nonzero).isWithin ?_ range
  rw [abs_div]
  exact (div_le_self (abs_nonneg _) one).trans first.abs_le

theorem IsWithin.roundHalfAway (range : e ≤ 1023) : IsWithin e (roundHalfAway x) := by
  obtain ⟨y, finite, exact⟩ := exists_value_two_pow range
  obtain ⟨finite', small⟩ := roundHalfAway_magnitude_le first.finite finite exact (by
    push_cast
    exact first.abs_le)
  exact ⟨finite', by exact_mod_cast small⟩

end Operations

end ItemScoring.Binary64
