import Mathlib
import ItemScoring.Proofs.Binary64.Integers

/-!
# Rounded results

The result of an operation is the exact magnitude, cut off to a mantissa and an exponent, of which
so many further digits are rounded away that 53 are left. Of the rounding only one thing is used:
the rounded mantissa is less than one unit away from the exact magnitude (`IsCutTo.abs_sub_lt`). The
mantissas of finite numbers are whole, so a finite number is never on different sides of the exact
and of the rounded number. The rounded number keeps the place of the exact one among all finite
numbers (`IsRounded`, `IsCutTo.isRounded`).
-/

set_option autoImplicit false

namespace ItemScoring.Binary64

open Float.Model UnpackedFloat

/-! ## Mantissas -/

/-- Nothing has been cut off from a mantissa. -/
def IsWhole (m : ExtendedMantissa) : Prop := m.roundBit = false ∧ m.stickyBit = false

theorem mantissa_shiftRight (m : ExtendedMantissa) (k : Nat) :
    (m >>> k).mantissa = m.mantissa / 2 ^ k := by
  induction k with
  | zero =>
      change m.mantissa = _
      simp
  | succ k ih =>
      change (m >>> k).mantissa / 2 = _
      rw [ih, Nat.div_div_eq_div_mul, ← pow_succ]

/-- Shifting cuts off nothing but zeros if it leaves the mantissa whole. -/
theorem isWhole_shiftRight (m : ExtendedMantissa) (k : Nat) :
    IsWhole (m >>> k) ↔ IsWhole m ∧ m.mantissa % 2 ^ k = 0 := by
  induction k with
  | zero =>
      change IsWhole m ↔ _
      simp [Nat.mod_one]
  | succ k ih =>
      have step : IsWhole (m >>> (k + 1)) ↔ (m >>> k).mantissa % 2 = 0 ∧ IsWhole (m >>> k) := by
        change ((m >>> k).mantissa % 2 != 0) = false ∧
          ((m >>> k).roundBit || (m >>> k).stickyBit) = false ↔ _
        simp [IsWhole]
      have digits : m.mantissa % 2 ^ (k + 1) =
          m.mantissa % 2 ^ k + 2 ^ k * (m.mantissa / 2 ^ k % 2) := by
        rw [pow_succ, Nat.mod_mul]
      have power := Nat.two_pow_pos k
      rw [step, ih, mantissa_shiftRight, digits, Nat.add_eq_zero_iff, Nat.mul_eq_zero]
      constructor
      · rintro ⟨bit, whole, rest⟩
        exact ⟨whole, rest, .inr bit⟩
      · rintro ⟨whole, rest, none | bit⟩
        · omega
        · exact ⟨bit, whole, rest⟩

/-- Only what is not whole is rounded up. -/
theorem roundedMantissa_cases (m : ExtendedMantissa) :
    m.roundedMantissa = m.mantissa ∨ m.roundedMantissa = m.mantissa + 1 ∧ ¬ IsWhole m := by
  obtain ⟨n, first, more⟩ := m
  cases first <;> cases more
  · exact .inl rfl
  · exact .inl rfl
  · have even : (ExtendedMantissa.mk n true false).roundedMantissa = n + n % 2 := rfl
    rcases Nat.mod_two_eq_zero_or_one n with bit | bit
    · exact .inl (even.trans (by rw [bit]; rfl))
    · exact .inr ⟨even.trans (by rw [bit]), nofun⟩
  · exact .inr ⟨rfl, nofun⟩

/-- A magnitude has been cut off to a mantissa with an exponent. -/
structure IsCutTo (q : ℚ) (m : Nat) (e : Int) (a : Accuracy) : Prop where
  le : m * 2 ^ e ≤ q
  lt : q < (m + 1) * 2 ^ e
  whole : IsWhole (.ofMantissaAndAccuracy m a) ↔ q = m * 2 ^ e

theorem mantissa_ofMantissaAndAccuracy (m : Nat) (a : Accuracy) :
    (ExtendedMantissa.ofMantissaAndAccuracy m a).mantissa = m := by
  cases a with
  | exact => rfl
  | inexact o => cases o <;> rfl

theorem two_zpow_add (e : Int) (k : Nat) : (2 : ℚ) ^ (e + k) = 2 ^ k * 2 ^ e := by
  rw [zpow_add₀ two_ne_zero, zpow_natCast, mul_comm]

/-- The rounded mantissa is what is left of the mantissa or the next integer. -/
theorem roundedMantissa_bounds (m k : Nat) (a : Accuracy) :
    let r := (ExtendedMantissa.ofMantissaAndAccuracy m a >>> k).roundedMantissa
    m / 2 ^ k ≤ r ∧ r ≤ m / 2 ^ k + 1 := by
  have shifted := mantissa_shiftRight (ExtendedMantissa.ofMantissaAndAccuracy m a) k
  have cases := roundedMantissa_cases (ExtendedMantissa.ofMantissaAndAccuracy m a >>> k)
  rw [mantissa_ofMantissaAndAccuracy] at shifted
  rw [shifted] at cases
  omega

section Cut

variable {q : ℚ} {m : Nat} {e : Int} {a : Accuracy} (cut : IsCutTo q m e a) (k : Nat)
include cut

theorem IsCutTo.floor_le : (m / 2 ^ k : Nat) * 2 ^ (e + k) ≤ q := by
  have power : (0 : ℚ) < 2 ^ e := by positivity
  have whole : ((m / 2 ^ k : Nat) * 2 ^ k : ℚ) ≤ m := by exact_mod_cast Nat.div_mul_le_self m _
  rw [two_zpow_add, ← mul_assoc]
  exact (mul_le_mul_of_nonneg_right whole power.le).trans cut.le

/-- The rounded mantissa is less than one unit away. -/
theorem IsCutTo.abs_sub_lt :
    |((ExtendedMantissa.ofMantissaAndAccuracy m a >>> k).roundedMantissa : ℚ) * 2 ^ (e + k) - q| <
      2 ^ (e + k) := by
  have power : (0 : ℚ) < 2 ^ e := by positivity
  have shifted := mantissa_shiftRight (ExtendedMantissa.ofMantissaAndAccuracy m a) k
  rw [mantissa_ofMantissaAndAccuracy] at shifted
  have floor := cut.floor_le k
  have ceiling : q < ((m / 2 ^ k : Nat) + 1) * 2 ^ (e + k) := by
    have whole : (m + 1 : ℚ) ≤ ((m / 2 ^ k : Nat) + 1) * 2 ^ k := by
      exact_mod_cast Nat.lt_mul_of_div_lt (Nat.lt_succ_self _) (Nat.two_pow_pos k)
    rw [two_zpow_add, ← mul_assoc]
    exact cut.lt.trans_le (mul_le_mul_of_nonneg_right whole power.le)
  rw [abs_lt]
  rcases roundedMantissa_cases
    (ExtendedMantissa.ofMantissaAndAccuracy m a >>> k) with kept | ⟨raised, rest⟩
  · rw [kept, shifted]
    constructor <;> linarith
  · -- The mantissa is raised only if something has been cut off.
    have apart : (m / 2 ^ k : Nat) * 2 ^ (e + k) ≠ q := by
      intro same
      rw [two_zpow_add, ← mul_assoc] at same
      have le : (m : ℚ) ≤ (m / 2 ^ k : Nat) * 2 ^ k :=
        le_of_mul_le_mul_right (cut.le.trans same.ge) power
      have divides : m = m / 2 ^ k * 2 ^ k :=
        le_antisymm (by exact_mod_cast le) (Nat.div_mul_le_self m _)
      refine rest ((isWhole_shiftRight _ k).2 ⟨cut.whole.2 ?_, ?_⟩)
      · rw [← same]
        congr 1
        exact_mod_cast divides.symm
      · rw [mantissa_ofMantissaAndAccuracy, divides]
        exact Nat.mul_mod_left _ _
    have above := lt_of_le_of_ne floor apart
    rw [raised, shifted]
    push_cast
    constructor <;> linarith

end Cut

/-! ## Rounding -/

section Shift

variable {m k : Nat} {e : Int} (target : max ((m.log2 : Int) + e - 52) (-1074) = e + k)
include target

theorem shiftToTargetExponent_of_target (a : Accuracy) :
    shiftToTargetExponent Format.binary64 m e a =
      (ExtendedMantissa.ofMantissaAndAccuracy m a >>> k, e + k) := by
  have exponent : Format.binary64.targetExponent (totalExponent m e) = e + k := by
    change max ((m.log2 : Int) + 1 + e - 53) (-1074) = e + k
    omega
  have amount : (e + k - e).toNat = k := by omega
  rw [shiftToTargetExponent, exponent, shiftToExponent, amount]

/-- What is left has 53 digits at most, and exactly so many above the least exponent. -/
theorem div_two_pow_bounds :
    m / 2 ^ k < 2 * leastNormal ∧ (-1074 < e + k → leastNormal ≤ m / 2 ^ k) := by
  have power := Nat.two_pow_pos k
  constructor
  · rw [Nat.div_lt_iff_lt_mul power]
    calc m < 2 ^ (m.log2 + 1) := Nat.lt_log2_self
      _ ≤ 2 ^ (53 + k) := Nat.pow_le_pow_right two_pos (by omega)
      _ = 2 * leastNormal * 2 ^ k := pow_add 2 53 k
  · intro above
    have digits : m.log2 = 52 + k := by omega
    have positive : m ≠ 0 := by
      rintro rfl
      rw [Nat.log2_zero] at digits
      omega
    rw [Nat.le_div_iff_mul_le power]
    calc leastNormal * 2 ^ k = 2 ^ (52 + k) := (pow_add 2 52 k).symm
      _ ≤ m := digits ▸ Nat.log2_self_le positive

/-- A rounded number has the parts of a finite number, and its value is the rounded mantissa. -/
theorem roundWithAccuracy_value (s : Sign) (a : Accuracy) :
    IsCanonical (roundWithAccuracy Format.binary64 s m e a) ∧
      rational (roundWithAccuracy Format.binary64 s m e a) = s.apply 1 *
        ((ExtendedMantissa.ofMantissaAndAccuracy m a >>> k).roundedMantissa * 2 ^ (e + k)) := by
  obtain ⟨few, full⟩ := div_two_pow_bounds target
  have near := roundedMantissa_bounds m k a
  unfold roundWithAccuracy
  rw [shiftToTargetExponent_of_target target a]
  dsimp only
  generalize (ExtendedMantissa.ofMantissaAndAccuracy m a >>> k).roundedMantissa = r at *
  have high : r ≤ 2 * leastNormal := by omega
  have low : -1074 < e + k → leastNormal ≤ r := fun above => (full above).trans (by omega)
  have least : -1074 ≤ e + k := target ▸ le_max_right _ _
  generalize e + (k : Int) = f at *
  -- Rounding up may have led to the power of two above, which has one digit more.
  obtain ⟨c, again, kept, normalized⟩ : ∃ c : Nat, max ((r.log2 : Int) + f - 52) (-1074) = f + c ∧
      r / 2 ^ c * 2 ^ c = r ∧ IsNormalized (r / 2 ^ c) (f + c) := by
    rcases Nat.lt_or_eq_of_le high with fits | rfl
    · have digits : r.log2 ≤ 52 := log2_le_of_lt fits
      refine ⟨0, ?_, by simp, by simpa using fits, by simpa using least, by simpa using low⟩
      by_cases above : -1074 < f
      · rw [(IsFull.mk (low above) fits).log2_eq]
        omega
      · omega
    · have digits : (2 * leastNormal).log2 = 53 := by decide
      refine ⟨1, ?_, by decide, by decide, by omega, fun _ => by decide⟩
      rw [digits]
      omega
  have value : ((r / 2 ^ c : Nat) : ℚ) * 2 ^ (f + c) = r * 2 ^ f := by
    rw [two_zpow_add, ← mul_assoc]
    congr 1
    exact_mod_cast kept
  have mantissa := mantissa_shiftRight (ExtendedMantissa.ofMantissaAndAccuracy r .exact) c
  rw [mantissa_ofMantissaAndAccuracy] at mantissa
  rw [shiftToTargetExponent_of_target again .exact]
  dsimp only
  generalize (ExtendedMantissa.ofMantissaAndAccuracy r .exact >>> c).mantissa = n at *
  subst mantissa
  split
  next none =>
    refine ⟨.zero s, ?_⟩
    rw [← value, none, Nat.cast_zero, zero_mul, mul_zero]
    rfl
  next some =>
    refine ⟨.finite s _ normalized, ?_⟩
    rw [rational, value]

end Shift

/-! ## Rounding keeps the place among finite numbers -/

/-- A magnitude is either a multiple of a power of two, or it is small compared to it. -/
theorem IsNormalized.multiple_or_lt {n : Nat} {f t : Int} (normalized : IsNormalized n f) :
    (∃ c : Nat, (n : ℚ) * 2 ^ f = c * 2 ^ t) ∨
      -1074 < t ∧ (n : ℚ) * 2 ^ f < leastNormal * 2 ^ t := by
  rcases le_or_gt t f with le | less
  · obtain ⟨d, rfl⟩ := Int.le.dest le
    refine .inl ⟨n * 2 ^ d, ?_⟩
    rw [two_zpow_add]
    push_cast
    ring
  · refine .inr ⟨normalized.least.trans_lt less, ?_⟩
    have few : (n : ℚ) < 2 * leastNormal := by exact_mod_cast normalized.few
    calc (n : ℚ) * 2 ^ f < 2 * leastNormal * 2 ^ f := mul_lt_mul_of_pos_right few (by positivity)
      _ = leastNormal * 2 ^ (f + 1) := by rw [two_zpow_succ]; ring
      _ ≤ leastNormal * 2 ^ t := by gcongr <;> norm_num; omega

/-- A magnitude stays where it is among the magnitudes of finite numbers when it is rounded. -/
theorem IsCutTo.rounded_place {q : ℚ} {m k n : Nat} {e f : Int} {a : Accuracy}
    (cut : IsCutTo q m e a) (target : max ((m.log2 : Int) + e - 52) (-1074) = e + k)
    (normalized : IsNormalized n f) :
    let r := (ExtendedMantissa.ofMantissaAndAccuracy m a >>> k).roundedMantissa
    (q ≤ n * 2 ^ f → (r : ℚ) * 2 ^ (e + k) ≤ n * 2 ^ f) ∧
      (n * 2 ^ f ≤ q → n * 2 ^ f ≤ (r : ℚ) * 2 ^ (e + k)) := by
  intro r
  have near := abs_lt.1 (cut.abs_sub_lt k)
  change -_ < (r : ℚ) * _ - _ ∧ (r : ℚ) * _ - _ < _ at near
  have power : (0 : ℚ) < 2 ^ (e + k) := by positivity
  rcases normalized.multiple_or_lt (t := e + k) with ⟨c, multiple⟩ | ⟨above, small⟩
  · -- Both are multiples of the unit, and less than one unit lies between.
    rw [multiple]
    constructor
    · intro le
      have less : (r : ℚ) * 2 ^ (e + k) < (c + 1) * 2 ^ (e + k) := by linarith [near.2]
      have less : r < c + 1 := by exact_mod_cast lt_of_mul_lt_mul_right less power.le
      gcongr
      omega
    · intro le
      have less : (c : ℚ) * 2 ^ (e + k) < (r + 1) * 2 ^ (e + k) := by linarith [near.1]
      have less : c < r + 1 := by exact_mod_cast lt_of_mul_lt_mul_right less power.le
      gcongr
      omega
  · -- All multiples near the exact magnitude are greater.
    have full : leastNormal ≤ m / 2 ^ k := (div_two_pow_bounds target).2 above
    have floor : (leastNormal : ℚ) * 2 ^ (e + k) ≤ (m / 2 ^ k : Nat) * 2 ^ (e + k) := by gcongr
    have rounded : ((m / 2 ^ k : Nat) : ℚ) * 2 ^ (e + k) ≤ r * 2 ^ (e + k) := by
      gcongr
      exact (roundedMantissa_bounds m k a).1
    have whole := cut.floor_le k
    exact ⟨fun le => by linarith, fun _ => by linarith⟩

/-- A result has the place of an exact number among the finite numbers: it is on the same side of
each of them. -/
structure IsRounded (q : ℚ) (u : UnpackedFloat) : Prop where
  canonical : IsCanonical u
  le : ∀ {v}, IsCanonical v → q ≤ rational v → rational u ≤ rational v
  ge : ∀ {v}, IsCanonical v → rational v ≤ q → rational v ≤ rational u

/-- A finite number has its own place. -/
theorem IsCanonical.isRounded {u : UnpackedFloat} (h : IsCanonical u) : IsRounded (rational u) u :=
  ⟨h, fun _ le => le, fun _ le => le⟩

theorem IsRounded.neg {q : ℚ} {u : UnpackedFloat} (h : IsRounded q u) : IsRounded (-q) u.neg where
  canonical := h.canonical.neg
  le hv le := by
    have turned := h.ge hv.neg (by rw [rational_neg]; linarith)
    rw [rational_neg] at turned ⊢
    linarith
  ge hv le := by
    have turned := h.le hv.neg (by rw [rational_neg]; linarith)
    rw [rational_neg] at turned ⊢
    linarith

theorem neg_roundWithAccuracy (s : Sign) (m : Nat) (e : Int) (a : Accuracy) :
    (roundWithAccuracy Format.binary64 s m e a).neg =
      roundWithAccuracy Format.binary64 (-s) m e a := by
  unfold roundWithAccuracy
  dsimp only
  split <;> rfl

theorem IsCanonical.negative_or_magnitude {v : UnpackedFloat} (h : IsCanonical v) :
    rational v < 0 ∨ ∃ n f, IsNormalized n f ∧ rational v = n * 2 ^ f := by
  cases h with
  | zero s =>
      refine .inr ⟨0, -1074, ⟨by decide, le_rfl, fun above => absurd above (lt_irrefl _)⟩, ?_⟩
      rw [Nat.cast_zero, zero_mul]
      rfl
  | finite s positive normalized =>
      cases s with
      | positive => exact .inr ⟨_, _, normalized, rational_positive positive⟩
      | negative => exact .inl (rational_negative_neg positive)

/-- A magnitude that has been cut off is rounded, when enough digits are left to fill a mantissa. -/
theorem IsCutTo.isRounded {q : ℚ} {m : Nat} {e : Int} {a : Accuracy} (cut : IsCutTo q m e a)
    (filled : e ≤ max ((m.log2 : Int) + e - 52) (-1074)) (s : Sign) :
    IsRounded (s.apply 1 * q) (roundWithAccuracy Format.binary64 s m e a) := by
  have positive : IsRounded q (roundWithAccuracy Format.binary64 .positive m e a) := by
    obtain ⟨k, target⟩ : ∃ k : Nat, max ((m.log2 : Int) + e - 52) (-1074) = e + k := by
      obtain ⟨k, same⟩ := Int.le.dest filled
      exact ⟨k, same.symm⟩
    obtain ⟨canonical, value⟩ := roundWithAccuracy_value target .positive a
    have one : ((Sign.positive.apply 1 : Int) : ℚ) = 1 := rfl
    rw [one, one_mul] at value
    have nonneg : 0 ≤ q := le_trans (by positivity) cut.le
    have above : 0 ≤ rational (roundWithAccuracy Format.binary64 .positive m e a) := by
      rw [value]
      positivity
    refine ⟨canonical, fun hv le => ?_, fun hv le => ?_⟩
    · rcases hv.negative_or_magnitude with negative | ⟨n, f, normalized, magnitude⟩
      · linarith
      · rw [magnitude] at le ⊢
        exact value ▸ (cut.rounded_place target normalized).1 le
    · rcases hv.negative_or_magnitude with negative | ⟨n, f, normalized, magnitude⟩
      · linarith
      · rw [magnitude] at le ⊢
        exact value ▸ (cut.rounded_place target normalized).2 le
  cases s with
  | positive => simpa [Sign.apply] using positive
  | negative =>
      have turned : -Sign.positive = Sign.negative := rfl
      have negative := positive.neg
      rw [neg_roundWithAccuracy, turned] at negative
      simpa [Sign.apply] using negative

end ItemScoring.Binary64
