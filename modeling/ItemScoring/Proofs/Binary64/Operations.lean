import Mathlib
import ItemScoring.Proofs.Binary64.Rounding

/-!
# Operations on finite numbers

Each operation on finite numbers rounds the exact result: a sum after the mantissas have been given
one exponent, a product of whole mantissas, and a quotient with digits enough and its remainder. So
every result has the place of the exact one among the finite numbers (`rounds_add`, `rounds_sub`,
`rounds_mul`, `rounds_div`). If that place is between finite numbers the result is finite
(`isFinite_of_between`), and if the exact result is a finite number it is the result
(`Rounds.value_eq`), as multiples of a power of two are with factors of no more than 53 digits
(`exists_value`).
-/

set_option autoImplicit false

namespace ItemScoring.Binary64

open Float.Model UnpackedFloat

/-! ## Exact magnitudes -/

theorem isCutTo_exact (m : Nat) (e : Int) : IsCutTo (m * 2 ^ e) m e .exact where
  le := le_rfl
  lt := by
    have power : (0 : ℚ) < 2 ^ e := by positivity
    linarith
  whole := iff_of_true ⟨rfl, rfl⟩ rfl

/-- A number is rounded after its mantissa has been given digits enough. -/
theorem isRounded_round (s : Sign) {m : Nat} (positive : m ≠ 0) (e : Int) :
    IsRounded (s.apply 1 * (m * 2 ^ e)) (UnpackedFloat.round Format.binary64 s m e) := by
  have target : Format.binary64.targetExponent (totalExponent m e) =
      max ((m.log2 : Int) + 1 + e - 53) (-1074) := rfl
  obtain ⟨d, shift⟩ : ∃ d : Nat, (e - max ((m.log2 : Int) + 1 + e - 53) (-1074)).toNat = d :=
    ⟨_, rfl⟩
  have rounded : IsRounded (s.apply 1 * ((m * 2 ^ d : Nat) * 2 ^ (e - d)))
      (roundWithAccuracy Format.binary64 s (m * 2 ^ d) (e - d) .exact) := by
    refine (isCutTo_exact _ _).isRounded ?_ s
    rw [log2_mul_two_pow positive]
    omega
  have value : ((m * 2 ^ d : Nat) : ℚ) * 2 ^ (e - d) = m * 2 ^ e := by
    have exponent := two_zpow_add (e - d) d
    rw [sub_add_cancel] at exponent
    rw [exponent]
    push_cast
    ring
  rw [value] at rounded
  unfold UnpackedFloat.round decreaseExponent
  dsimp only
  rw [target, shift, Nat.shiftLeft_eq]
  exact rounded

theorem isRounded_normalize (m e : Int) (s : Sign) :
    IsRounded (m * 2 ^ e) (UnpackedFloat.normalize Format.binary64 m e s) := by
  unfold UnpackedFloat.normalize
  rcases lt_trichotomy m 0 with less | rfl | greater
  · have rounded := isRounded_round .negative (m := (-m).toNat) (by omega) e
    have value : (((-m).toNat : Nat) : ℚ) = -m := by
      rw [← Int.cast_natCast, Int.toNat_of_nonneg (by omega), Int.cast_neg]
    rw [compare_lt_iff_lt.2 less]
    rw [value] at rounded
    simpa [Sign.apply] using rounded
  · rw [compare_eq_iff_eq.2 rfl, Int.cast_zero, zero_mul]
    exact (IsCanonical.zero s).isRounded
  · have rounded := isRounded_round .positive (m := m.toNat) (by omega) e
    have value : ((m.toNat : Nat) : ℚ) = m := by
      rw [← Int.cast_natCast, Int.toNat_of_nonneg greater.le]
    rw [compare_gt_iff_gt.2 greater]
    rw [value] at rounded
    simpa [Sign.apply] using rounded

/-- A quotient is cut off to its whole part, and the remainder tells how much is missing. -/
theorem isCutTo_quotient {m n : Nat} (positive : 0 < n) (e : Int) :
    IsCutTo ((m / n : ℚ) * 2 ^ e) (m / n) e (accuracyOfFraction (m % n) n) := by
  have power : (0 : ℚ) < 2 ^ e := by positivity
  have denominator : (0 : ℚ) < n := by exact_mod_cast positive
  have whole : (n : ℚ) * (m / n : Nat) + (m % n : Nat) = m := by exact_mod_cast Nat.div_add_mod m n
  have rest : ((m % n : Nat) : ℚ) < n := by exact_mod_cast Nat.mod_lt m positive
  have quotient : (m / n : ℚ) = (m / n : Nat) + (m % n : Nat) / n := by
    rw [← whole]
    field_simp
  rw [quotient]
  refine ⟨?_, ?_, ?_⟩
  · gcongr
    exact le_add_of_nonneg_right (by positivity)
  · gcongr
    exact (div_lt_one denominator).2 rest
  · rw [mul_left_inj' power.ne', add_eq_left, div_eq_zero_iff, or_iff_left denominator.ne',
      Nat.cast_eq_zero]
    unfold accuracyOfFraction
    split
    next none => exact iff_of_true ⟨rfl, rfl⟩ none
    next some =>
      refine iff_of_false ?_ some
      generalize compare (2 * (m % n)) n = o
      cases o <;> nofun

/-- The mantissa that belongs to a lower exponent. -/
theorem apply_shiftLeft (s : Sign) (m : Nat) {e t : Int} (lower : t ≤ e) :
    ((s.apply (m <<< (e - t).toNat : Nat) : Int) : ℚ) * 2 ^ t = s.apply 1 * (m * 2 ^ e) := by
  obtain ⟨d, rfl⟩ := Int.le.dest lower
  have amount : (t + d - t).toNat = d := by omega
  rw [amount, apply_eq, Nat.shiftLeft_eq, two_zpow_add]
  push_cast
  ring

theorem isRounded_zero (s : Sign) : IsRounded 0 (.zero s) := (IsCanonical.zero s).isRounded

theorem rational_zero (s : Sign) : rational (.zero s) = 0 := rfl

/-- A quotient has 53 digits at least if the dividend has so many more than the divisor. -/
theorem le_log2_div {m n d : Nat} (dividend : m ≠ 0) (divisor : 0 < n)
    (digits : n.log2 + 1 + 52 ≤ m.log2 + d) : 52 ≤ (m * 2 ^ d / n).log2 := by
  have full : 2 ^ 52 ≤ m * 2 ^ d / n := by
    rw [Nat.le_div_iff_mul_le divisor]
    calc 2 ^ 52 * n ≤ 2 ^ 52 * 2 ^ (n.log2 + 1) := Nat.mul_le_mul_left _ Nat.lt_log2_self.le
      _ = 2 ^ (n.log2 + 1 + 52) := by rw [mul_comm]; exact (pow_add 2 _ 52).symm
      _ ≤ 2 ^ (m.log2 + d) := Nat.pow_le_pow_right two_pos digits
      _ = 2 ^ m.log2 * 2 ^ d := pow_add _ _ _
      _ ≤ m * 2 ^ d := Nat.mul_le_mul_right _ (Nat.log2_self_le dividend)
  exact (Nat.le_log2 (Nat.two_pow_pos 52 |>.trans_le full).ne').2 full

/-- A quotient is cut off where digits enough are left to fill a mantissa. -/
theorem isRounded_divCore (s : Sign) {m n : Nat} (dividend : 0 < m) (divisor : 0 < n) (e f : Int) :
    let core := divCore Format.binary64 m e n f
    IsRounded (s.apply 1 * (m * 2 ^ e / (n * 2 ^ f)))
      (roundWithAccuracy Format.binary64 s core.1 core.2.1 core.2.2) := by
  obtain ⟨t, exponent⟩ : ∃ t, min (e - f) (max ((m.log2 : Int) + 1 + e - (n.log2 + 1 + f) - 53)
    (-1074)) = t := ⟨_, rfl⟩
  obtain ⟨d, amount⟩ : ∃ d : Nat, e - f = t + d := by
    obtain ⟨d, same⟩ := Int.le.dest (exponent ▸ min_le_left _ _ : t ≤ e - f)
    exact ⟨d, same.symm⟩
  have shift : (e - f - t).toNat = d := by omega
  have core : divCore Format.binary64 m e n f =
      (m * 2 ^ d / n, t, accuracyOfFraction (m * 2 ^ d % n) n) := by
    rw [← Nat.shiftLeft_eq, ← shift, ← exponent]
    rfl
  have quotient : (m : ℚ) * 2 ^ e / (n * 2 ^ f) = (m * 2 ^ d : Nat) / n * 2 ^ t := by
    have power : (2 : ℚ) ^ e = 2 ^ d * 2 ^ t * 2 ^ f := by
      rw [← two_zpow_add, ← zpow_add₀ two_ne_zero]
      congr 1
      omega
    rw [power]
    push_cast
    field_simp
  -- Above the least exponent, the dividend has been shifted as far as 53 digits need.
  have filled : t ≤ max (((m * 2 ^ d / n).log2 : Int) + t - 52) (-1074) := by
    rcases le_or_gt t (-1074) with low | above
    · exact low.trans (le_max_right _ _)
    · have digits : 52 ≤ (m * 2 ^ d / n).log2 := le_log2_div dividend.ne' divisor (by omega)
      omega
  rw [core, quotient]
  exact (isCutTo_quotient divisor t).isRounded filled s

section Operations

variable {u v : UnpackedFloat} (first : IsCanonical u) (second : IsCanonical v)
include first second

theorem isRounded_add :
    IsRounded (rational u + rational v) (UnpackedFloat.add Format.binary64 u v) := by
  cases first with
  | zero s =>
      rw [rational_zero, zero_add]
      cases second with
      | zero t => cases s <;> cases t <;> exact isRounded_zero _
      | finite t pos normalized => exact (IsCanonical.finite t pos normalized).isRounded
  | @finite s m e pos normalized =>
      cases second with
      | zero t =>
          rw [rational_zero, add_zero]
          exact (IsCanonical.finite s pos normalized).isRounded
      | @finite t n f pos' normalized' =>
          -- Both mantissas have been given the lower exponent.
          have rounded := isRounded_normalize (s.apply (m <<< (e - min e f).toNat : Nat) +
            t.apply (n <<< (f - min e f).toNat : Nat)) (min e f) .positive
          rw [Int.cast_add, add_mul, apply_shiftLeft s m (min_le_left e f),
            apply_shiftLeft t n (min_le_right e f)] at rounded
          exact rounded

/-- Subtracting is adding the opposite number. -/
theorem sub_eq_add :
    UnpackedFloat.sub Format.binary64 u v = UnpackedFloat.add Format.binary64 u v.neg := by
  cases first with
  | zero s => cases second <;> rfl
  | finite s pos normalized =>
      cases second with
      | zero t => rfl
      | finite t pos' normalized' =>
          change UnpackedFloat.normalize _ (_ - _) _ _ = UnpackedFloat.normalize _ (_ + _) _ _
          rw [apply_neg, ← sub_eq_add_neg]

theorem isRounded_sub :
    IsRounded (rational u - rational v) (UnpackedFloat.sub Format.binary64 u v) := by
  rw [sub_eq_add first second, sub_eq_add_neg, ← rational_neg]
  exact isRounded_add first second.neg

theorem isRounded_mul :
    IsRounded (rational u * rational v) (UnpackedFloat.mul Format.binary64 u v) := by
  cases first with
  | zero s =>
      rw [rational_zero, zero_mul]
      cases second <;> exact isRounded_zero _
  | @finite s m e pos normalized =>
      cases second with
      | zero t =>
          rw [rational_zero, mul_zero]
          exact isRounded_zero _
      | @finite t n f pos' normalized' =>
          have filled : e + f ≤ max (((m * n).log2 : Int) + (e + f) - 52) (-1074) := by
            rcases Nat.lt_or_ge (m * n) leastNormal with few | full
            · -- Neither mantissa is full, so both exponents are the least one.
              have first := mt normalized.full (by
                have := Nat.le_mul_of_pos_right m pos'
                omega)
              have second := mt normalized'.full (by
                have := Nat.le_mul_of_pos_left n pos
                omega)
              omega
            · have digits : 52 ≤ (m * n).log2 := (Nat.le_log2 (Nat.mul_pos pos pos').ne').2 full
              omega
          have product : (s.apply 1 : ℚ) * (m * 2 ^ e) * (t.apply 1 * (n * 2 ^ f)) =
              (s * t).apply 1 * ((m * n : Nat) * 2 ^ (e + f)) := by
            rw [apply_one_mul, zpow_add₀ two_ne_zero]
            push_cast
            ring
          rw [rational, rational, product]
          exact (isCutTo_exact _ _).isRounded filled (s * t)

theorem isRounded_div (nonzero : rational v ≠ 0) :
    IsRounded (rational u / rational v) (UnpackedFloat.div Format.binary64 u v) := by
  cases second with
  | zero t => exact absurd rfl nonzero
  | @finite t n f pos' normalized' =>
      cases first with
      | zero s =>
          rw [rational_zero, zero_div]
          exact isRounded_zero _
      | @finite s m e pos normalized =>
          have quotient : (s.apply 1 : ℚ) * (m * 2 ^ e) / (t.apply 1 * (n * 2 ^ f)) =
              (s / t).apply 1 * (m * 2 ^ e / (n * 2 ^ f)) := by
            have sign : (t.apply 1 : ℚ) = 1 / t.apply 1 := by cases t <;> norm_num [Sign.apply]
            rw [apply_one_div, mul_div_mul_comm]
            push_cast
            nth_rewrite 2 [sign]
            ring
          rw [rational, rational, quotient]
          exact isRounded_divCore (s / t) pos pos' e f

end Operations

/-! ## Results as floating-point numbers -/

/-- A number has the place of an exact number among the finite numbers, also if it is too great to
be finite itself. -/
structure Rounds (q : ℚ) (z : Float) : Prop where
  le : ∀ {y : Float}, y.isFinite = true → q ≤ value y → z ≤ y
  ge : ∀ {y : Float}, y.isFinite = true → value y ≤ q → y ≤ z

section Infinity

variable {u : UnpackedFloat} (h : IsCanonical u)
include h

theorem compare_infinity :
    u.compare (.infinity .positive) = some .lt ∧ u.compare (.infinity .negative) = some .gt := by
  cases h <;> exact ⟨rfl, rfl⟩

theorem infinity_compare :
    (infinity .positive).compare u = some .gt ∧ (infinity .negative).compare u = some .lt := by
  cases h <;> exact ⟨rfl, rfl⟩

end Infinity

/-- Packing keeps a number, unless it is too great. -/
theorem IsCanonical.unpack_pack {u : UnpackedFloat} (h : IsCanonical u) :
    (Float.Model.pack u).unpack = u ∨
      ∃ s : Sign, (Float.Model.pack u).unpack = .infinity s ∧
        2 ^ (1024 : Int) ≤ (s.apply 1 : ℚ) * rational u := by
  cases h with
  | zero s => cases s <;> exact .inl rfl
  | @finite s m e positive normalized =>
      rcases le_or_gt e greatestExponent with inRange | exceeds
      · exact .inl (unpack_pack_of_isCanonical positive normalized inRange)
      · refine .inr ⟨s, unpack_pack_of_exceeds positive exceeds, ?_⟩
        have above : 972 ≤ e := exceeds
        have full : (leastNormal : ℚ) ≤ m := by exact_mod_cast normalized.full (by omega)
        have sign : (s.apply 1 : ℚ) * s.apply 1 = 1 := by cases s <;> norm_num [Sign.apply]
        have digits : (leastNormal : ℚ) = 2 ^ (52 : Int) := by norm_num [leastNormal]
        rw [rational, ← mul_assoc, sign, one_mul]
        calc (2 : ℚ) ^ (1024 : Int) = leastNormal * 2 ^ (972 : Int) := by
              rw [digits, ← zpow_add₀ two_ne_zero]
              rfl
          _ ≤ leastNormal * 2 ^ e := by gcongr; norm_num
          _ ≤ m * 2 ^ e := by gcongr

theorem IsRounded.rounds {q : ℚ} {u : UnpackedFloat} {z : Float} (h : IsRounded q u)
    (packed : z.toModel.unpack = (Float.Model.pack u).unpack) : Rounds q z := by
  rcases h.canonical.unpack_pack with kept | ⟨s, infinite, great⟩
  · rw [kept] at packed
    have finite := isFinite_of_isCanonical (packed.symm ▸ h.canonical)
    have same : value z = rational u := congrArg rational packed
    refine ⟨fun hy le => ?_, fun hy le => ?_⟩
    · rw [le_iff_value finite hy, same]
      exact h.le (isCanonical_unpack hy) le
    · rw [le_iff_value hy finite, same]
      exact h.ge (isCanonical_unpack hy) le
  · -- No finite number is beyond the infinity, and none lies between it and the exact number.
    rw [infinite] at packed
    refine ⟨fun {y} hy le => ?_, fun {y} hy le => ?_⟩
    · have bound := h.le (isCanonical_unpack hy) le
      change _ ≤ value y at bound
      have small := abs_lt.1 (abs_value_lt y)
      cases s with
      | positive =>
          simp only [Sign.apply, Int.cast_one, one_mul] at great
          linarith
      | negative =>
          rw [le_iff, packed, (infinity_compare (isCanonical_unpack hy)).2]
          rfl
    · have bound := h.ge (isCanonical_unpack hy) le
      change value y ≤ _ at bound
      have small := abs_lt.1 (abs_value_lt y)
      cases s with
      | positive =>
          rw [le_iff, packed, (compare_infinity (isCanonical_unpack hy)).1]
          rfl
      | negative =>
          simp only [Sign.apply, Int.cast_neg, Int.cast_one, neg_one_mul] at great
          linarith

/-- The opposite of a finite number has the same parts but for the sign. -/
theorem unpack_neg {x : Float} (finite : x.isFinite = true) :
    (-x).toModel.unpack = x.toModel.unpack.neg := by
  change (Float.Model.pack x.toModel.unpack.neg).unpack = _
  cases kind : x.toModel.unpack with
  | zero s => cases s <;> rfl
  | finite s m e positive =>
      obtain ⟨normalized, inRange⟩ := unpack_eq_finite kind
      exact unpack_pack_of_isCanonical positive normalized inRange
  | notANumber | infinity =>
      change x.toModel.unpack.isFinite = true at finite
      rw [kind] at finite
      cases finite

theorem isFinite_neg {x : Float} (finite : x.isFinite = true) : (-x).isFinite = true :=
  isFinite_of_isCanonical (unpack_neg finite ▸ (isCanonical_unpack finite).neg)

theorem value_neg {x : Float} (finite : x.isFinite = true) : value (-x) = -value x := by
  rw [value, unpack_neg finite, rational_neg]
  rfl

section Results

variable {x y : Float} (first : x.isFinite = true) (second : y.isFinite = true)
include first second

theorem rounds_add : Rounds (value x + value y) (x + y) :=
  (isRounded_add (isCanonical_unpack first) (isCanonical_unpack second)).rounds rfl

theorem rounds_sub : Rounds (value x - value y) (x - y) :=
  (isRounded_sub (isCanonical_unpack first) (isCanonical_unpack second)).rounds rfl

theorem rounds_mul : Rounds (value x * value y) (x * y) :=
  (isRounded_mul (isCanonical_unpack first) (isCanonical_unpack second)).rounds rfl

theorem rounds_div (nonzero : value y ≠ 0) : Rounds (value x / value y) (x / y) :=
  (isRounded_div (isCanonical_unpack first) (isCanonical_unpack second) nonzero).rounds rfl

/-- What lies between finite numbers is finite. -/
theorem isFinite_of_between {z : Float} (low : x ≤ z) (high : z ≤ y) : z.isFinite = true := by
  rw [le_iff] at low high
  change z.toModel.unpack.isFinite = true
  cases kind : z.toModel.unpack with
  | zero | finite => rfl
  | notANumber =>
      rw [kind] at high
      cases high
  | infinity s =>
      rw [kind] at low high
      cases s with
      | positive =>
          rw [(infinity_compare (isCanonical_unpack second)).1] at high
          cases high
      | negative =>
          rw [(compare_infinity (isCanonical_unpack first)).2] at low
          cases low

end Results

/-- A number that is neither greater nor less than a finite number is equal to it. -/
theorem beq_of_le_of_ge {y z : Float} (finite : y.isFinite = true) (le : z ≤ y) (ge : y ≤ z) :
    (z == y) = true ∧ (y == z) = true := by
  have between := isFinite_of_between finite finite ge le
  have same : value z = value y := le_antisymm ((le_iff_value between finite).1 le)
    ((le_iff_value finite between).1 ge)
  exact ⟨(beq_iff_value between finite).2 same, (beq_iff_value finite between).2 same.symm⟩

/-- A number that is finite itself is the result. -/
theorem Rounds.value_eq {q : ℚ} {z y : Float} (h : Rounds q z) (finite : y.isFinite = true)
    (exact : value y = q) : z.isFinite = true ∧ value z = q := by
  have low := h.ge finite exact.le
  have high := h.le finite exact.ge
  have finite' := isFinite_of_between finite finite low high
  refine ⟨finite', ?_⟩
  rw [← exact]
  exact le_antisymm ((le_iff_value finite' finite).1 high) ((le_iff_value finite finite').1 low)

/-! ## Multiples of a power of two -/

/-- A mantissa of no more than 53 digits is filled up as far as the least exponent allows. -/
theorem exists_normalized {m : Nat} {k : Int} (positive : m ≠ 0) (few : m < 2 * leastNormal)
    (low : -1074 ≤ k) : ∃ n e, IsNormalized n e ∧ e ≤ k ∧ (n : ℚ) * 2 ^ e = m * 2 ^ k := by
  have digits : m.log2 ≤ 52 := log2_le_of_lt few
  obtain ⟨d, shift⟩ : ∃ d, min (52 - m.log2) (k + 1074).toNat = d := ⟨_, rfl⟩
  refine ⟨m * 2 ^ d, k - d, ⟨?_, by omega, fun above => ?_⟩, by omega, ?_⟩
  · calc m * 2 ^ d < 2 ^ (m.log2 + 1) * 2 ^ d :=
          Nat.mul_lt_mul_of_pos_right Nat.lt_log2_self (Nat.two_pow_pos d)
      _ = 2 ^ (m.log2 + 1 + d) := (pow_add 2 _ d).symm
      _ ≤ 2 ^ 53 := Nat.pow_le_pow_right two_pos (by omega)
  · have filled : 52 = m.log2 + d := by omega
    calc leastNormal = 2 ^ (m.log2 + d) := congrArg (fun j => 2 ^ j) filled
      _ = 2 ^ m.log2 * 2 ^ d := pow_add 2 _ d
      _ ≤ m * 2 ^ d := Nat.mul_le_mul_right _ (Nat.log2_self_le positive)
  · have exponent := two_zpow_add (k - d) d
    rw [sub_add_cancel] at exponent
    rw [exponent]
    push_cast
    ring

/-- A multiple of a power of two is a finite number, if the factor has no more than 53 digits. -/
theorem exists_value {n k : Int} (small : n.natAbs ≤ 2 * leastNormal) (low : -1074 ≤ k)
    (high : k ≤ 970) : ∃ y : Float, y.isFinite = true ∧ value y = n * 2 ^ k := by
  rcases eq_or_ne n 0 with rfl | nonzero
  · refine ⟨.ofModel (.pack (.zero .positive)), rfl, ?_⟩
    rw [Int.cast_zero, zero_mul]
    rfl
  obtain ⟨m, e, normalized, inRange, same⟩ : ∃ m e, IsNormalized m e ∧ e ≤ greatestExponent ∧
      (m : ℚ) * 2 ^ e = n.natAbs * 2 ^ k := by
    rcases Nat.lt_or_eq_of_le small with few | full
    · obtain ⟨m, e, normalized, le, same⟩ := exists_normalized (by omega) few low
      exact ⟨m, e, normalized, le.trans (high.trans (by decide)), same⟩
    · -- The power of two that has one digit more is half as great with the next exponent.
      obtain ⟨m, e, normalized, le, same⟩ := exists_normalized (m := leastNormal) (k := k + 1)
        (by decide) (by decide) (by omega)
      refine ⟨m, e, normalized, le.trans (by unfold greatestExponent; omega), ?_⟩
      rw [same, full, two_zpow_succ]
      push_cast
      ring
  have there : 0 < m := by
    have product : (0 : ℚ) < m * 2 ^ e := by
      rw [same]
      have := Int.natAbs_pos.2 nonzero
      positivity
    exact_mod_cast pos_of_mul_pos_left product (by positivity)
  obtain ⟨s, sign⟩ : ∃ s : Sign, (s.apply 1 : ℚ) * n.natAbs = n := by
    rcases Int.natAbs_eq n with positive | negative
    · exact ⟨.positive, by nth_rewrite 2 [positive]; simp [Sign.apply]⟩
    · exact ⟨.negative, by nth_rewrite 2 [negative]; simp [Sign.apply]⟩
  have packed := unpack_pack_of_isCanonical (s := s) there normalized inRange
  refine ⟨.ofModel (.pack (.finite s m e there)), ?_, ?_⟩
  · change (Float.Model.pack (.finite s m e there)).unpack.isFinite = true
    rw [packed]
    rfl
  · change rational (Float.Model.pack (.finite s m e there)).unpack = _
    rw [packed, rational, same, ← mul_assoc, sign]

theorem exists_value_two_zpow {e : Int} (low : -1074 ≤ e) (high : e ≤ 1023) :
    ∃ y : Float, y.isFinite = true ∧ value y = 2 ^ e := by
  obtain ⟨k, d, exponent, low, high, few⟩ : ∃ (k : Int) (d : Nat), e = k + d ∧ -1074 ≤ k ∧
      k ≤ 970 ∧ d ≤ 53 := ⟨min e 970, (e - min e 970).toNat, by omega, by omega, by omega, by omega⟩
  obtain ⟨y, finite, same⟩ := exists_value (n := 2 ^ d) (k := k) (by
    rw [Int.natAbs_pow]
    exact Nat.pow_le_pow_right two_pos few) low high
  refine ⟨y, finite, ?_⟩
  rw [same, exponent, two_zpow_add]
  push_cast
  rfl

end ItemScoring.Binary64
