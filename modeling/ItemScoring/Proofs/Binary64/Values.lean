import Mathlib
import ItemScoring.Proofs.Binary64.Packing

/-!
# The values of finite numbers

A finite number is the rational number that its sign, its mantissa and its exponent make. Its parts
belong together: the mantissa has 53 digits, unless the exponent is the least one. That makes
comparing exponents before mantissas the order of the rational numbers (`compare_of_isCanonical`),
and it lets packing give back the parts of every number that is not too great. So finite numbers are
in the order of their values (`le_iff_value`, `beq_iff_value`).
-/

set_option autoImplicit false

namespace ItemScoring.Binary64

open Float.Model UnpackedFloat

/-! ## Exact values -/

/-- The rational number that an unpacked number is; what is not finite counts as zero. -/
def rational : UnpackedFloat → ℚ
  | .finite s m e _ => s.apply 1 * (m * 2 ^ e)
  | _ => 0

/-- The rational number that a finite number is. -/
def value (x : Float) : ℚ := rational x.toModel.unpack

/-- A mantissa and an exponent that belong together: the mantissa has 53 digits, or fewer if the
exponent is the least one. -/
structure IsNormalized (m : Nat) (e : Int) : Prop where
  few : m < 2 * leastNormal
  least : -1074 ≤ e
  full : -1074 < e → leastNormal ≤ m

/-- The mantissa and the exponent of a finite number belong together. -/
inductive IsCanonical : UnpackedFloat → Prop where
  | zero (s : Sign) : IsCanonical (.zero s)
  | finite (s : Sign) {m : Nat} {e : Int} (positive : 0 < m) (normalized : IsNormalized m e) :
      IsCanonical (.finite s m e positive)

theorem apply_neg (s : Sign) (n : Int) : (-s).apply n = -s.apply n := by
  cases s with
  | positive => rfl
  | negative => exact (neg_neg n).symm

theorem apply_one_mul (s t : Sign) : (s * t).apply 1 = s.apply 1 * t.apply 1 := by
  cases s <;> cases t <;> rfl

theorem apply_one_div (s t : Sign) : (s / t).apply 1 = s.apply 1 * t.apply 1 := by
  cases s <;> cases t <;> rfl

theorem apply_eq (s : Sign) (n : Int) : s.apply n = s.apply 1 * n := by
  cases s <;> simp [Sign.apply]

theorem rational_neg (u : UnpackedFloat) : rational u.neg = -rational u := by
  cases u with
  | finite s m e _ =>
      change ((-s).apply 1 : ℚ) * _ = -(_ * _)
      rw [apply_neg]
      push_cast
      ring
  | _ => rfl

theorem IsCanonical.neg {u : UnpackedFloat} (h : IsCanonical u) : IsCanonical u.neg := by
  cases h with
  | zero s => exact .zero (-s)
  | finite s positive normalized => exact .finite (-s) positive normalized

/-! ## The order of exact values -/

theorem compare_congr {α β : Type} [LinearOrder α] [LinearOrder β] {a b : α} {c d : β}
    (lt : a < b ↔ c < d) (gt : b < a ↔ d < c) : compare a b = compare c d := by
  rcases lt_trichotomy a b with less | equal | greater
  · rw [compare_lt_iff_lt.2 less, compare_lt_iff_lt.2 (lt.1 less)]
  · have le : c ≤ d := not_lt.1 (mt gt.2 equal.not_gt)
    have ge : d ≤ c := not_lt.1 (mt lt.2 equal.not_lt)
    have same : c = d := le_antisymm le ge
    rw [compare_eq_iff_eq.2 equal, compare_eq_iff_eq.2 same]
  · rw [compare_gt_iff_gt.2 greater, compare_gt_iff_gt.2 (gt.1 greater)]

theorem two_zpow_succ (e : Int) : (2 : ℚ) ^ (e + 1) = 2 * 2 ^ e := by
  rw [zpow_add_one₀ two_ne_zero, mul_comm]

/-- A greater exponent makes the greater number, whatever the mantissas are. -/
theorem mul_two_zpow_lt {m n : Nat} {e f : Int} (first : IsNormalized m e)
    (second : IsNormalized n f) (less : e < f) : (m : ℚ) * 2 ^ e < n * 2 ^ f := by
  have few : (m : ℚ) < 2 * leastNormal := by exact_mod_cast first.few
  have full : (leastNormal : ℚ) ≤ n := by exact_mod_cast second.full (first.least.trans_lt less)
  calc (m : ℚ) * 2 ^ e < 2 * leastNormal * 2 ^ e := mul_lt_mul_of_pos_right few (by positivity)
    _ = leastNormal * 2 ^ (e + 1) := by rw [two_zpow_succ]; ring
    _ ≤ leastNormal * 2 ^ f := by gcongr <;> norm_num; omega
    _ ≤ n * 2 ^ f := by gcongr

/-- Magnitudes are compared exponents first. -/
theorem compare_magnitudes {m n : Nat} {e f : Int} (first : IsNormalized m e)
    (second : IsNormalized n f) :
    (compare e f).then (compare m n) = compare ((m : ℚ) * 2 ^ e) (n * 2 ^ f) := by
  rcases lt_trichotomy e f with less | rfl | greater
  · rw [compare_lt_iff_lt.2 less, compare_lt_iff_lt.2 (mul_two_zpow_lt first second less)]
    rfl
  · have power : (0 : ℚ) < 2 ^ e := by positivity
    rw [compare_eq_iff_eq.2 rfl]
    refine compare_congr ?_ ?_
    · rw [mul_lt_mul_iff_left₀ power, Nat.cast_lt]
    · rw [mul_lt_mul_iff_left₀ power, Nat.cast_lt]
  · rw [compare_gt_iff_gt.2 greater, compare_gt_iff_gt.2 (mul_two_zpow_lt second first greater)]
    rfl

section Signs

variable {m : Nat} {e : Int} (positive : 0 < m)

theorem rational_positive : rational (.finite .positive m e positive) = m * 2 ^ e := by
  simp [rational, Sign.apply]

theorem rational_negative : rational (.finite .negative m e positive) = -(m * 2 ^ e) := by
  simp [rational, Sign.apply]

theorem rational_positive_pos : 0 < rational (.finite .positive m e positive) := by
  rw [rational_positive]
  positivity

theorem rational_negative_neg : rational (.finite .negative m e positive) < 0 := by
  rw [rational_negative, neg_lt_zero]
  positivity

end Signs

/-- Finite numbers are compared as the rational numbers that they are. -/
theorem compare_of_isCanonical {u v : UnpackedFloat} (first : IsCanonical u)
    (second : IsCanonical v) : u.compare v = some (compare (rational u) (rational v)) := by
  -- The signs decide, unless both numbers have the same one.
  cases first with
  | zero s =>
      cases second with
      | zero t => rfl
      | finite t pos normalized =>
          cases t with
          | positive => exact congrArg some (compare_lt_iff_lt.2 (rational_positive_pos pos)).symm
          | negative => exact congrArg some (compare_gt_iff_gt.2 (rational_negative_neg pos)).symm
  | finite s pos normalized =>
      cases second with
      | zero t =>
          cases s with
          | positive => exact congrArg some (compare_gt_iff_gt.2 (rational_positive_pos pos)).symm
          | negative => exact congrArg some (compare_lt_iff_lt.2 (rational_negative_neg pos)).symm
      | finite t pos' normalized' =>
          have magnitudes := compare_magnitudes normalized normalized'
          cases s with
          | positive =>
              cases t with
              | positive =>
                  rw [rational_positive, rational_positive]
                  exact congrArg some magnitudes
              | negative =>
                  exact congrArg some (compare_gt_iff_gt.2
                    ((rational_negative_neg pos').trans (rational_positive_pos pos))).symm
          | negative =>
              cases t with
              | positive =>
                  exact congrArg some (compare_lt_iff_lt.2
                    ((rational_negative_neg pos).trans (rational_positive_pos pos'))).symm
              | negative =>
                  rw [rational_negative, rational_negative]
                  refine (congrArg (fun o => some (Ordering.swap o)) magnitudes).trans ?_
                  rw [← Std.OrientedOrd.eq_swap]
                  exact congrArg some (compare_congr neg_lt_neg_iff.symm neg_lt_neg_iff.symm)

theorem lt_iff {x y : Float} :
    x < y ↔ x.toModel.unpack.compare y.toModel.unpack = some .lt := by
  change decide (x.toModel < y.toModel) = true ↔ _
  rw [decide_eq_true_iff]
  exact beq_iff_eq

theorem le_iff {x y : Float} :
    x ≤ y ↔ (x.toModel.unpack.compare y.toModel.unpack).any (·.isLE) = true := by
  change decide (x.toModel ≤ y.toModel) = true ↔ _
  rw [decide_eq_true_iff]
  rfl

theorem le_of_beq {x y : Float} (h : (x == y) = true) : x ≤ y := by
  have equal : x.toModel.unpack.compare y.toModel.unpack = some .eq := beq_iff_eq.1 h
  rw [le_iff, equal]
  rfl

/-! ## Numbers and their parts -/

theorem toNat_pos_of_ne_zero {m : BitVec 52} (h : m ≠ 0#52) : 0 < m.toNat :=
  Nat.pos_of_ne_zero fun none => h (BitVec.toNat_inj.1 none)

/-- Of a number with the lowest exponent code the mantissa is all that is packed. -/
theorem unpack_packComponents_zero (s : Sign) {m : BitVec 52} (there : m ≠ 0#52) :
    UnpackedFloat.unpack Format.binary64 (packComponents Format.binary64 s 0#11 m) =
      .finite s m.toNat (-1074) (toNat_pos_of_ne_zero there) := by
  have exponent : unpackExponent (packComponents Format.binary64 s 0#11 m) = 0#11 :=
    unpackExponent_packComponents
  have mantissa : unpackMantissa (packComponents Format.binary64 s 0#11 m) = m :=
    unpackMantissa_packComponents
  have sign := unpackSign_packComponents s 0#11 m
  unfold UnpackedFloat.unpack
  dsimp only
  generalize packComponents Format.binary64 s 0#11 m = bits at *
  rw [if_neg (by rw [exponent]; decide), if_pos exponent, dif_neg (mantissa ▸ there),
    UnpackedFloat.finite.injEq]
  refine ⟨?_, ?_, ?_⟩
  · rw [sign, ofBitVec_toBitVec]
  · rw [mantissa]
  · rw [exponent]
    rfl

/-- A mantissa of fewer than 53 digits with the least exponent survives packing. -/
theorem unpack_pack_subnormal (s : Sign) {m : Nat} {e : Int} (positive : 0 < m)
    (few : m < leastNormal) (lowest : e = -1074) :
    (Float.Model.pack (.finite s m e positive)).unpack = .finite s m e positive := by
  have digits : m.log2 < 52 := (Nat.log2_lt positive.ne').2 few
  have packed : UnpackedFloat.pack Format.binary64 (.finite s m e positive) =
      packComponents Format.binary64 s 0#11 (BitVec.ofNat 52 m) := by
    change (if 2048 ≤ (e + 1023 + 52).toNat + 1 then _ else if m.log2 + 1 = 53 then _ else _) = _
    rw [if_neg (by omega), if_neg (by omega)]
  have kept : (BitVec.ofNat 52 m).toNat = m := by
    rw [BitVec.toNat_ofNat]
    exact Nat.mod_eq_of_lt few
  have there : BitVec.ofNat 52 m ≠ 0#52 := by
    intro none
    rw [none] at kept
    exact positive.ne kept
  change UnpackedFloat.unpack Format.binary64 (UnpackedFloat.pack Format.binary64 _) = _
  rw [packed, unpack_packComponents_zero s there, UnpackedFloat.finite.injEq]
  exact ⟨rfl, kept, lowest.symm⟩

/-- No finite number has a greater exponent. -/
def greatestExponent : Int := 971

theorem unpack_pack_of_isCanonical {s : Sign} {m : Nat} {e : Int} (positive : 0 < m)
    (normalized : IsNormalized m e) (inRange : e ≤ greatestExponent) :
    (Float.Model.pack (.finite s m e positive)).unpack = .finite s m e positive := by
  rcases Nat.lt_or_ge m leastNormal with few | full
  · obtain rfl : e = -1074 := by
      have := normalized.least
      have := mt normalized.full (by omega)
      omega
    exact unpack_pack_subnormal s positive few rfl
  · exact unpack_pack_finite s ⟨full, normalized.few⟩ normalized.least inRange

/-- A number whose exponent is too great is packed as an infinity. -/
theorem unpack_pack_of_exceeds {s : Sign} {m : Nat} {e : Int} (positive : 0 < m)
    (exceeds : greatestExponent < e) :
    (Float.Model.pack (.finite s m e positive)).unpack = .infinity s := by
  have packed : UnpackedFloat.pack Format.binary64 (.finite s m e positive) =
      packedInfinity Format.binary64 s := by
    change (if 2048 ≤ (e + 1023 + 52).toNat + 1 then _ else if m.log2 + 1 = 53 then _ else _) = _
    unfold greatestExponent at exceeds
    rw [if_pos (by omega)]
  change UnpackedFloat.unpack Format.binary64 (UnpackedFloat.pack Format.binary64 _) = _
  rw [packed]
  cases s <;> rfl

/-- The parts that are read off a bit pattern belong together, and the exponent is in range. -/
theorem unpack_eq_finite {x : Float} {s : Sign} {m : Nat} {e : Int} {positive : 0 < m}
    (h : x.toModel.unpack = .finite s m e positive) :
    IsNormalized m e ∧ e ≤ greatestExponent := by
  change UnpackedFloat.unpack Format.binary64 x.toBits.toBitVec = _ at h
  have short : (@unpackMantissa Format.binary64 x.toBits.toBitVec).toNat < leastNormal :=
    (@unpackMantissa Format.binary64 x.toBits.toBitVec).isLt
  have codes : (@unpackExponent Format.binary64 x.toBits.toBitVec).toNat < exponentCodes :=
    (@unpackExponent Format.binary64 x.toBits.toBitVec).isLt
  have joined : (1#1 ++ @unpackMantissa Format.binary64 x.toBits.toBitVec).toNat =
      leastNormal + (@unpackMantissa Format.binary64 x.toBits.toBitVec).toNat := by
    rw [BitVec.toNat_append]
    exact (Nat.shiftLeft_add_eq_or_of_lt short 1).symm
  unfold greatestExponent
  unfold exponentCodes at codes
  unfold UnpackedFloat.unpack at h
  dsimp only at h
  split at h
  · split at h <;> cases h
  next notHighest =>
  split at h
  next none =>
    split at h
    · cases h
    · obtain ⟨-, rfl, rfl⟩ := UnpackedFloat.finite.inj h
      rw [none]
      exact ⟨⟨by omega, le_rfl, fun above => absurd above (lt_irrefl _)⟩, by decide⟩
  next notLowest =>
    obtain ⟨-, rfl, rfl⟩ := UnpackedFloat.finite.inj h
    have notTop : (@unpackExponent Format.binary64 x.toBits.toBitVec).toNat ≠ 2047 :=
      fun top => notHighest (BitVec.toNat_inj.1 top)
    have notZero : (@unpackExponent Format.binary64 x.toBits.toBitVec).toNat ≠ 0 :=
      fun zero => notLowest (BitVec.toNat_inj.1 zero)
    have bias : (Format.binary64.exponentBias : Int) = 1023 := rfl
    rw [joined, bias]
    exact ⟨⟨by omega, by omega, fun _ => by omega⟩, by omega⟩

theorem isCanonical_unpack {x : Float} (finite : x.isFinite = true) :
    IsCanonical x.toModel.unpack := by
  change x.toModel.unpack.isFinite = true at finite
  cases kind : x.toModel.unpack with
  | zero s => exact .zero s
  | finite s m e positive => exact .finite s positive (unpack_eq_finite kind).1
  | notANumber | infinity =>
      rw [kind] at finite
      cases finite

theorem isFinite_of_isCanonical {z : Float} (h : IsCanonical z.toModel.unpack) :
    z.isFinite = true := by
  change z.toModel.unpack.isFinite = true
  generalize z.toModel.unpack = u at h
  cases h <;> rfl

section Order

variable {x y : Float} (first : x.isFinite = true) (second : y.isFinite = true)
include first second

theorem compare_value :
    x.toModel.unpack.compare y.toModel.unpack = some (compare (value x) (value y)) :=
  compare_of_isCanonical (isCanonical_unpack first) (isCanonical_unpack second)

/-- Finite numbers are in the order of the rational numbers that they are. -/
theorem le_iff_value : x ≤ y ↔ value x ≤ value y := by
  rw [le_iff, compare_value first second, Option.any_some, Ordering.isLE_iff_ne_gt,
    compare_gt_iff_gt, not_lt]

theorem beq_iff_value : (x == y) = true ↔ value x = value y := by
  have equal : (x == y) = (x.toModel.unpack.compare y.toModel.unpack == some .eq) := rfl
  rw [equal, compare_value first second, beq_iff_eq, Option.some_inj, compare_eq_iff_eq]

end Order

/-- No finite number reaches this magnitude. -/
theorem abs_value_lt (x : Float) : |value x| < 2 ^ (1024 : Int) := by
  unfold value
  cases kind : x.toModel.unpack with
  | finite s m e positive =>
      obtain ⟨normalized, inRange⟩ := unpack_eq_finite kind
      have few : (m : ℚ) < 2 * leastNormal := by exact_mod_cast normalized.few
      have sign : |(s.apply 1 : ℚ)| = 1 := by cases s <;> simp [Sign.apply]
      have magnitude : (0 : ℚ) < m * 2 ^ e := by positivity
      have digits : (2 * leastNormal : ℚ) = 2 ^ (53 : Int) := by norm_num [leastNormal]
      rw [rational, abs_mul, sign, one_mul, abs_of_pos magnitude]
      calc (m : ℚ) * 2 ^ e < 2 * leastNormal * 2 ^ e :=
            mul_lt_mul_of_pos_right few (by positivity)
        _ ≤ 2 * leastNormal * 2 ^ greatestExponent := by gcongr; norm_num
        _ = 2 ^ (1024 : Int) := by
          rw [digits, ← zpow_add₀ two_ne_zero]
          rfl
  | zero | infinity | notANumber =>
      change |(0 : ℚ)| < _
      rw [abs_zero]
      positivity

end ItemScoring.Binary64
