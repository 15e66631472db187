import Mathlib
import ItemScoring.Proofs.Binary64.Values

/-!
# Integers as floating-point numbers

An integer becomes the floating-point number nearest to it, a tie going to the one with the even
mantissa. That number is an integer again, so the conversion is described on integers alone: all
digits beyond the first 53 are rounded away (`nearest`). The rounding keeps the order of integers,
and it keeps integers of no more than 53 digits; and floating-point numbers with integers for values
are compared as these integers are. So conversions of integers compare as the nearest integers do
(`compare_ofInteger`).
-/

set_option autoImplicit false

namespace ItemScoring.Binary64

open Float.Model UnpackedFloat

/-! ## The nearest integer with 53 digits -/

/-- The magnitude nearest to a magnitude of which all digits beyond the first 53 are zero. -/
def nearestMagnitude (m : Nat) : Nat :=
  Direction.nearestEven.round false m (2 ^ (m.log2 - 52)) * 2 ^ (m.log2 - 52)

/-- The nearest integer that is a floating-point number. -/
def nearest (n : Int) : Int := withSign (n < 0) (nearestMagnitude n.natAbs)

section Rounding

variable {m n d : Nat}

theorem round_mono (le : m ≤ n) :
    Direction.nearestEven.round false m d ≤ Direction.nearestEven.round false n d := by
  have quotients : m / d ≤ n / d := Nat.div_le_div_right le
  have first := Nat.div_add_mod m d
  have second := Nat.div_add_mod n d
  rw [round_nearestEven, round_nearestEven]
  rcases Nat.lt_or_eq_of_le quotients with less | equal
  · split_ifs <;> omega
  · rw [equal] at first ⊢
    split_ifs <;> omega

/-- A multiple of the divisor is rounded to its quotient. -/
theorem round_mul (q : Nat) (positive : 0 < d) :
    Direction.nearestEven.round false (q * d) d = q := by
  rw [round_nearestEven, Nat.mul_mod_left, Nat.mul_div_cancel _ positive, if_neg]
  omega

/-- A factor that the number and the divisor share makes no difference. -/
theorem round_mul_mul (c : Nat) (positive : 0 < c) :
    Direction.nearestEven.round false (m * c) (d * c) = Direction.nearestEven.round false m d := by
  have condition (r : Nat) : d * c < 2 * (r * c) ↔ d < 2 * r := by
    rw [← Nat.mul_assoc]
    exact Nat.mul_lt_mul_right positive
  have tie (r : Nat) : 2 * (r * c) = d * c ↔ 2 * r = d := by
    rw [← Nat.mul_assoc]
    exact Nat.mul_left_inj positive.ne'
  simp only [round_nearestEven, Nat.mul_mod_mul_right, Nat.mul_div_mul_right _ _ positive,
    condition, tie]

theorem log2_le_of_lt (few : m < 2 ^ 53) : m.log2 ≤ 52 := by
  by_cases zero : m = 0
  · rw [zero]
    decide
  · exact Nat.le_of_lt_succ ((Nat.log2_lt zero).2 few)

theorem nearestMagnitude_of_log2_le (small : m.log2 ≤ 52) : nearestMagnitude m = m := by
  rw [nearestMagnitude, Nat.sub_eq_zero_of_le small, pow_zero, mul_one]
  simpa using round_mul m (d := 1) one_pos

theorem two_pow_fiftyThree_add (k : Nat) : 2 ^ (52 + k + 1) = 2 * leastNormal * 2 ^ k := by
  rw [show 52 + k + 1 = 53 + k by omega, pow_add]
  rfl

/-- What is beyond 53 digits is rounded to a mantissa of 53 digits, or to the power of two above. -/
theorem round_bounds {k : Nat} (digits : m.log2 = 52 + k) (positive : m ≠ 0) :
    leastNormal ≤ Direction.nearestEven.round false m (2 ^ k) ∧
      Direction.nearestEven.round false m (2 ^ k) ≤ 2 * leastNormal := by
  have power := Nat.two_pow_pos k
  obtain ⟨low, high⟩ := (Nat.log2_eq_iff positive).1 digits
  have below : leastNormal * 2 ^ k ≤ m := by rwa [pow_add] at low
  have above : m ≤ 2 * leastNormal * 2 ^ k := two_pow_fiftyThree_add k ▸ high.le
  exact ⟨round_mul leastNormal power ▸ round_mono below,
    round_mul (2 * leastNormal) power ▸ round_mono above⟩

theorem nearestMagnitude_bounds (positive : m ≠ 0) :
    2 ^ m.log2 ≤ nearestMagnitude m ∧ nearestMagnitude m ≤ 2 ^ (m.log2 + 1) := by
  by_cases small : m.log2 ≤ 52
  · rw [nearestMagnitude_of_log2_le small]
    exact ⟨Nat.log2_self_le positive, Nat.lt_log2_self.le⟩
  · obtain ⟨k, digits⟩ : ∃ k, m.log2 = 52 + k := ⟨m.log2 - 52, by omega⟩
    obtain ⟨low, high⟩ := round_bounds digits positive
    rw [nearestMagnitude, digits, Nat.add_sub_cancel_left, two_pow_fiftyThree_add, pow_add]
    exact ⟨Nat.mul_le_mul_right _ low, Nat.mul_le_mul_right _ high⟩

/-- Rounding keeps the order: within one number of digits because the quotients are rounded in
order, and across because there is a power of two between. -/
theorem nearestMagnitude_mono (le : m ≤ n) : nearestMagnitude m ≤ nearestMagnitude n := by
  by_cases zero : m = 0
  · subst zero
    rw [nearestMagnitude_of_log2_le (by decide)]
    exact Nat.zero_le _
  · have digits : m.log2 ≤ n.log2 := by
      rw [Nat.le_log2 (by omega)]
      exact (Nat.log2_self_le zero).trans le
    rcases Nat.lt_or_eq_of_le digits with fewer | same
    · calc nearestMagnitude m ≤ 2 ^ (m.log2 + 1) := (nearestMagnitude_bounds zero).2
        _ ≤ 2 ^ n.log2 := Nat.pow_le_pow_right two_pos fewer
        _ ≤ nearestMagnitude n := (nearestMagnitude_bounds (by omega)).1
    · rw [nearestMagnitude, nearestMagnitude, same]
      exact Nat.mul_le_mul_right _ (round_mono le)

end Rounding

/-- Rounding keeps the order of integers. -/
theorem nearest_mono {m n : Int} (le : m ≤ n) : nearest m ≤ nearest n := by
  have magnitudes (a b : Int) (le : a.natAbs ≤ b.natAbs) :
      nearestMagnitude a.natAbs ≤ nearestMagnitude b.natAbs := nearestMagnitude_mono le
  unfold nearest withSign
  simp only [decide_eq_true_eq]
  split_ifs with first second second
  · have := magnitudes n m (by omega)
    omega
  · omega
  · omega
  · have := magnitudes m n (by omega)
    omega

/-- Integers of no more than 53 digits are floating-point numbers. -/
theorem nearest_of_le {n : Int} (small : n.natAbs ≤ 2 * leastNormal) : nearest n = n := by
  have kept : nearestMagnitude n.natAbs = n.natAbs := by
    rcases Nat.lt_or_eq_of_le small with less | equal
    · exact nearestMagnitude_of_log2_le (log2_le_of_lt less)
    · rw [equal]
      decide
  unfold nearest withSign
  rw [kept]
  simp only [decide_eq_true_eq]
  split_ifs <;> omega

/-! ## Numbers that are integers -/

/-- An unpacked number has an integer for its value: it is a zero, or it has the sign of the
integer, and its full mantissa times the power of two of its exponent is the magnitude. The exponent
is at least `-52`, and both sides are multiplied by `2 ^ 52` to be natural numbers. -/
inductive HasValue : UnpackedFloat → Int → Prop where
  | zero (s : Sign) : HasValue (.zero s) 0
  | finite (s : Sign) {m k n : Nat} (full : IsFull m) (value : m * 2 ^ k = n * leastNormal) :
      HasValue (.finite s m ((k : Int) - 52) full.pos) (s.apply n)

/-- The digits that are rounded away of a scaled number are those of the number itself. -/
theorem round_scaled {n t k : Nat} (digits : n.log2 + t = 52 + k) :
    Direction.nearestEven.round false (n * 2 ^ t) (2 ^ k) * 2 ^ k = nearestMagnitude n * 2 ^ t := by
  by_cases small : n.log2 ≤ 52
  · obtain ⟨i, rfl⟩ : ∃ i, t = i + k := ⟨t - k, by omega⟩
    rw [nearestMagnitude_of_log2_le small, pow_add, ← mul_assoc, round_mul _ (Nat.two_pow_pos k)]
  · obtain ⟨j, rfl⟩ : ∃ j, k = j + t := ⟨k - t, by omega⟩
    have beyond : n.log2 - 52 = j := by omega
    rw [pow_add, round_mul_mul _ (Nat.two_pow_pos t), nearestMagnitude, beyond, mul_assoc]

theorem log2_mul_two_pow {n : Nat} (positive : n ≠ 0) (t : Nat) :
    (n * 2 ^ t).log2 = n.log2 + t := by
  rw [Nat.log2_eq_iff (mul_ne_zero positive (Nat.two_pow_pos t).ne')]
  obtain ⟨low, high⟩ := (Nat.log2_eq_iff positive).1 rfl
  have power := Nat.two_pow_pos t
  rw [show n.log2 + t + 1 = n.log2 + 1 + t by omega, pow_add, pow_add]
  exact ⟨Nat.mul_le_mul_right _ low, Nat.mul_lt_mul_of_pos_right high power⟩

/-- An integer with enough digits after the point to fill the mantissa is rounded to the nearest
integer. -/
theorem hasValue_round (s : Sign) {n t : Nat} (positive : n ≠ 0) (filled : 52 ≤ n.log2 + t) :
    HasValue (roundWithAccuracy Format.binary64 s (n * 2 ^ t) (-t) .exact)
      (s.apply (nearestMagnitude n)) := by
  obtain ⟨k, digits⟩ : ∃ k, n.log2 + t = 52 + k := ⟨n.log2 + t - 52, by omega⟩
  have scaled := round_scaled digits
  have total : (n * 2 ^ t).log2 = 52 + k := by rw [log2_mul_two_pow positive, digits]
  obtain ⟨low, high⟩ := round_bounds total (mul_ne_zero positive (Nat.two_pow_pos t).ne')
  generalize rounded : Direction.nearestEven.round false (n * 2 ^ t) (2 ^ k) = r at *
  -- Rounding up may have led to the power of two above, which has one digit more.
  obtain ⟨c, added, full, kept⟩ :
      ∃ c, r.log2 = 52 + c ∧ IsFull (r / 2 ^ c) ∧ r / 2 ^ c * 2 ^ c = r := by
    rcases Nat.lt_or_eq_of_le high with less | rfl
    · have full : IsFull r := ⟨low, less⟩
      exact ⟨0, full.log2_eq, by simpa using full, by simp⟩
    · exact ⟨1, by decide, ⟨by decide, by decide⟩, by decide⟩
  have value : r / 2 ^ c * 2 ^ (n.log2 + c) = nearestMagnitude n * leastNormal := by
    refine Nat.eq_of_mul_eq_mul_right (Nat.two_pow_pos k) ?_
    calc r / 2 ^ c * 2 ^ (n.log2 + c) * 2 ^ k
        = r / 2 ^ c * 2 ^ c * 2 ^ k * 2 ^ n.log2 := by rw [pow_add]; ring
      _ = nearestMagnitude n * 2 ^ (n.log2 + t) := by rw [kept, scaled, pow_add]; ring
      _ = nearestMagnitude n * leastNormal * 2 ^ k := by
        rw [digits, pow_add, ← mul_assoc]
        rfl
  have exponent : -(t : Int) + k + c = ((n.log2 + c : Nat) : Int) - 52 := by omega
  rw [roundWithAccuracy_eq s total (by omega) rounded added full]
  simp only [exponent]
  exact .finite s full value

section Values

variable {u : UnpackedFloat} {a : Int}

theorem natAbs_apply (s : Sign) (n : Nat) : (s.apply n).natAbs = n := by
  cases s <;> simp [Sign.apply]

/-- The exponent is no more than the digits of the integer. -/
theorem two_pow_le_of_value {m k n : Nat} (full : IsFull m) (value : m * 2 ^ k = n * leastNormal) :
    2 ^ k ≤ n := by
  refine Nat.le_of_mul_le_mul_left ?_ (by decide : 0 < leastNormal)
  calc leastNormal * 2 ^ k ≤ m * 2 ^ k := Nat.mul_le_mul_right _ full.low
    _ = leastNormal * n := by rw [value, mul_comm]

/-- An integer that is not too large survives packing. -/
theorem HasValue.unpack_pack (h : HasValue u a) (small : a.natAbs < 2 ^ 65) :
    (Float.Model.pack u).unpack = u := by
  cases h with
  | zero s => cases s <;> rfl
  | @finite s m k n full value =>
      rw [natAbs_apply] at small
      have digits : k < 65 := (Nat.pow_lt_pow_iff_right (by decide)).1
        ((two_pow_le_of_value full value).trans_lt small)
      exact unpack_pack_finite s full (by omega) (by omega)

theorem HasValue.isNaN_eq_false (h : HasValue u a) : u.isNaN = false := by
  cases h <;> rfl

theorem HasValue.neg (h : HasValue u a) : HasValue u.neg (-a) := by
  cases h with
  | zero s => exact .zero (-s)
  | @finite s m k n full value =>
      have turned : -(s.apply n) = (-s).apply n := by
        cases s
        · exact neg_neg _
        · rfl
      rw [turned]
      exact .finite (-s) full value

/-- Multiplying by one keeps the value: the digits that the product has more are zeros. -/
theorem HasValue.mul_one (h : HasValue u a) :
    HasValue (UnpackedFloat.mul Format.binary64 u (1 : Float).toModel.unpack) a := by
  have one : (1 : Float).toModel.unpack = .finite .positive leastNormal (-52) (by decide) := rfl
  rw [one]
  cases h with
  | zero s => exact .zero (s * .positive)
  | @finite s m k n full value =>
      have total : (m * leastNormal).log2 = 52 + 52 := by
        change (m * 2 ^ 52).log2 = _
        rw [log2_mul_two_pow full.pos.ne', full.log2_eq]
      have rounded : Direction.nearestEven.round false (m * leastNormal) (2 ^ 52) = m :=
        round_mul m (by decide)
      change HasValue (roundWithAccuracy Format.binary64 (s * .positive) (m * leastNormal)
        ((k : Int) - 52 + -52) .exact) _
      rw [roundWithAccuracy_eq _ total (by omega) rounded (c := 0) full.log2_eq
        (by simpa using full)]
      have same : s * .positive = s := by cases s <;> rfl
      have exponent : (k : Int) - 52 + -52 + (52 : Nat) + (0 : Nat) = k - 52 := by omega
      simp only [pow_zero, Nat.div_one, same, exponent]
      exact .finite s full value

end Values

/-! ## Conversions -/

/-- A conversion that shifts an integer to the left until its digits fill the mantissa. -/
theorem hasValue_ofInt {n : Nat} (digits : n.log2 ≤ 52) :
    HasValue (UnpackedFloat.ofInt Format.binary64 n) n := by
  by_cases zero : n = 0
  · subst zero
    exact .zero .positive
  · have nearby := hasValue_round .positive (t := 52 - n.log2) zero (by omega)
    rw [nearestMagnitude_of_log2_le digits] at nearby
    have amount : (0 - max ((n.log2 : Int) + 1 + 0 - 53) (-1074)).toNat = 52 - n.log2 := by omega
    have sign : compare (n : Int) 0 = .gt := Std.compare_eq_gt.2 (by omega)
    unfold UnpackedFloat.ofInt UnpackedFloat.normalize
    rw [sign]
    change HasValue (roundWithAccuracy Format.binary64 .positive
      (n <<< (0 - max ((n.log2 : Int) + 1 + 0 - 53) (-1074)).toNat)
      (0 - ((0 - max ((n.log2 : Int) + 1 + 0 - 53) (-1074)).toNat : Int)) .exact) n
    rw [amount, Nat.shiftLeft_eq, zero_sub]
    exact nearby

/-- A conversion that scales an integer so that it has digits enough. -/
theorem hasValue_ofScientific {n : Nat} (positive : n ≠ 0) :
    HasValue (UnpackedFloat.ofScientific Format.binary64 n 0) (nearestMagnitude n) := by
  have scaled := hasValue_round .positive (t := 53) positive (by omega)
  rw [UnpackedFloat.ofScientific, dif_neg positive, if_neg (by decide), if_neg, if_pos le_rfl]
  · have digits : n <<< Format.binary64.mantissaBits * 10 ^ Int.toNat 0 = n * 2 ^ 53 := by
      change n <<< 53 * 1 = _
      rw [Nat.mul_one, Nat.shiftLeft_eq]
    unfold UnpackedFloat.mul
    dsimp only
    rw [digits, add_zero]
    exact scaled
  · change ¬ (0 : Int) < -(2048 + n.log2)
    omega

theorem nearestMagnitude_lt {n : Nat} (positive : n ≠ 0) (small : n < 2 ^ 64) :
    nearestMagnitude n < 2 ^ 65 := by
  have digits : n.log2 < 64 := (Nat.log2_lt positive).2 small
  calc nearestMagnitude n ≤ 2 ^ (n.log2 + 1) := (nearestMagnitude_bounds positive).2
    _ ≤ 2 ^ 64 := Nat.pow_le_pow_right two_pos digits
    _ < 2 ^ 65 := by decide

/-- A machine word of no more than 53 digits is converted to itself. -/
theorem hasValue_toFloat {n : Nat} (few : n < 2 ^ 53) :
    HasValue n.toUInt64.toFloat.toModel.unpack n := by
  have word : n.toUInt64.toNat = n := Nat.mod_eq_of_lt (by omega)
  have converted := hasValue_ofInt (log2_le_of_lt few)
  have unpacked : n.toUInt64.toFloat.toModel.unpack =
      (Float.Model.pack (UnpackedFloat.ofInt Format.binary64 (n.toUInt64.toNat : Int))).unpack :=
    rfl
  rw [word, converted.unpack_pack (by omega)] at unpacked
  rwa [unpacked]

/-- An integer of no more than 53 digits is converted as a machine word, and the word is multiplied
by a power of ten, which is one. -/
theorem hasValue_ofNat_of_lt {n : Nat} (few : n < 2 ^ 53) :
    HasValue (Float.ofNat n).toModel.unpack n := by
  have converted : Float.ofNat n = n.toUInt64.toFloat * 1 := by
    change Float.ofScientific n false 0 = _
    rw [Float.ofScientific, dif_pos ⟨few, by decide⟩]
    rfl
  have product := (hasValue_toFloat few).mul_one
  rw [converted]
  change HasValue (Float.Model.pack (UnpackedFloat.mul Format.binary64 _ _)).unpack _
  rwa [product.unpack_pack (by omega)]

theorem hasValue_ofNat {n : Nat} (small : n < 2 ^ 64) :
    HasValue (Float.ofNat n).toModel.unpack (nearestMagnitude n) := by
  by_cases few : n < 2 ^ 53
  · have kept : nearest n = n := nearest_of_le few.le
    change HasValue _ (nearest n)
    rw [kept]
    exact hasValue_ofNat_of_lt few
  · have positive : n ≠ 0 := by omega
    have converted : (Float.ofNat n).toModel.unpack =
        (Float.Model.pack (UnpackedFloat.ofScientific Format.binary64 n 0)).unpack := by
      change (Float.ofScientific n false 0).toModel.unpack = _
      rw [Float.ofScientific, dif_neg fun fast => few fast.1]
      rfl
    have nearby := hasValue_ofScientific positive
    rwa [converted, nearby.unpack_pack (nearestMagnitude_lt positive small)]

theorem nearest_neg {n : Nat} (positive : n ≠ 0) : nearest (-n) = -nearestMagnitude n := by
  have negative : (-n : Int) < 0 := by omega
  rw [nearest, withSign, decide_eq_true negative, if_pos rfl, Int.natAbs_neg, Int.natAbs_natCast]

/-- The number that an integer is converted to has the nearest integer for its value. -/
theorem hasValue_ofInteger {n : Int} (small : n.natAbs < 2 ^ 64) :
    HasValue (ofInteger n).toModel.unpack (nearest n) := by
  cases n with
  | ofNat n => exact hasValue_ofNat small
  | negSucc n =>
      have opposite := (hasValue_ofNat (n := n + 1) small).neg
      have bounded : (-(nearestMagnitude (n + 1) : Int)).natAbs < 2 ^ 65 := by
        have := nearestMagnitude_lt (n := n + 1) (by omega) small
        omega
      have value : nearest (Int.negSucc n) = -nearestMagnitude (n + 1) :=
        nearest_neg (n := n + 1) (by omega)
      rw [value]
      change HasValue (Float.Model.pack (Float.ofNat (n + 1)).toModel.unpack.neg).unpack _
      rwa [opposite.unpack_pack bounded]

theorem isNaN_ofInteger {n : Int} (small : n.natAbs < 2 ^ 64) : (ofInteger n).isNaN = false :=
  (hasValue_ofInteger small).isNaN_eq_false

/-! ## The order of integers -/

theorem HasValue.isCanonical {u : UnpackedFloat} {a : Int} (h : HasValue u a) : IsCanonical u := by
  cases h with
  | zero s => exact .zero s
  | finite s full value =>
      exact .finite s full.pos ⟨full.high, by omega, fun _ => full.low⟩

theorem HasValue.rational_eq {u : UnpackedFloat} {a : Int} (h : HasValue u a) : rational u = a := by
  cases h with
  | zero s => rfl
  | @finite s m k n full value =>
      have digits : (leastNormal : ℚ) = 2 ^ (52 : Int) := by norm_num [leastNormal]
      have scaled : (m : ℚ) * 2 ^ k = n * leastNormal := by exact_mod_cast value
      have magnitude : (m : ℚ) * 2 ^ ((k : Int) - 52) = n := by
        rw [zpow_sub₀ two_ne_zero, zpow_natCast, ← digits, ← mul_div_assoc, scaled,
          mul_div_cancel_right₀ _ (by norm_num [leastNormal])]
      rw [rational, magnitude, apply_eq s n]
      push_cast
      rfl

theorem isFinite_ofInteger {n : Int} (small : n.natAbs < 2 ^ 64) :
    (ofInteger n).isFinite = true :=
  isFinite_of_isCanonical (hasValue_ofInteger small).isCanonical

theorem isFinite_ofNat {n : Nat} (few : n < 2 ^ 53) : (Float.ofNat n).isFinite = true :=
  isFinite_of_isCanonical (hasValue_ofNat_of_lt few).isCanonical

theorem value_ofNat {n : Nat} (few : n < 2 ^ 53) : value (Float.ofNat n) = n :=
  (hasValue_ofNat_of_lt few).rational_eq

theorem isFinite_zero : (0 : Float).isFinite = true := isFinite_ofNat (n := 0) (by norm_num)

theorem isFinite_one : (1 : Float).isFinite = true := isFinite_ofNat (n := 1) (by norm_num)

theorem value_zero : value 0 = 0 := value_ofNat (n := 0) (by norm_num)

theorem value_one : value 1 = 1 := by exact_mod_cast value_ofNat (n := 1) (by norm_num)

/-- Numbers are compared as the integers that they are. -/
theorem compare_of_hasValue {u v : UnpackedFloat} {a b : Int} (first : HasValue u a)
    (second : HasValue v b) : u.compare v = some (compare a b) := by
  rw [compare_of_isCanonical first.isCanonical second.isCanonical, first.rational_eq,
    second.rational_eq]
  exact congrArg some (compare_congr Int.cast_lt Int.cast_lt)

section Comparison

variable {a b : Int} (first : a.natAbs < 2 ^ 64) (second : b.natAbs < 2 ^ 64)

include first second

/-- Converted integers are compared as the nearest integers with 53 digits are. -/
theorem compare_ofInteger :
    (ofInteger a).toModel.unpack.compare (ofInteger b).toModel.unpack =
      some (compare (nearest a) (nearest b)) :=
  compare_of_hasValue (hasValue_ofInteger first) (hasValue_ofInteger second)

theorem ofInteger_lt_iff : ofInteger a < ofInteger b ↔ nearest a < nearest b := by
  rw [lt_iff, compare_ofInteger first second, Option.some_inj, compare_lt_iff_lt]

theorem ofInteger_le_iff : ofInteger a ≤ ofInteger b ↔ nearest a ≤ nearest b := by
  rw [le_iff, compare_ofInteger first second, Option.any_some, Std.isLE_compare]

theorem ofInteger_beq_iff : (ofInteger a == ofInteger b) = true ↔ nearest a = nearest b := by
  have equal : (ofInteger a == ofInteger b) =
      ((ofInteger a).toModel.unpack.compare (ofInteger b).toModel.unpack == some .eq) := rfl
  rw [equal, compare_ofInteger first second, beq_iff_eq, Option.some_inj, compare_eq_iff_eq]

end Comparison

end ItemScoring.Binary64
