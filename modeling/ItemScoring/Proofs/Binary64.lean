import Mathlib.Data.Option.Basic
import ItemScoring.Numeric.Binary64

/-!
# Floating-point numbers

The comparison by value decides whether two numbers are equal: it identifies the two zeros, and what
is no number is equal to nothing. Numbers that are equal by value are identical, but for the two
zeros. Besides the finite numbers there are the two infinities and one number that is no number.
-/

set_option autoImplicit false

namespace ItemScoring.Binary64

open Float.Model

/-! ## Equality by value -/

/-- What decides about the value of an unpacked number: a sign, an exponent and a mantissa for
finite numbers other than zero, and one mark for each infinity and for both zeros. -/
def valueMark : UnpackedFloat → Option (Int × Int × Nat)
  | .notANumber => none
  | .infinity .positive => some (2, 0, 0)
  | .infinity .negative => some (-2, 0, 0)
  | .zero _ => some (0, 0, 0)
  | .finite .positive mantissa exponent _ => some (1, exponent, mantissa)
  | .finite .negative mantissa exponent _ => some (-1, exponent, mantissa)

/-- Unpacked numbers are equal when they have one mark. -/
theorem compare_eq_some_eq {a b : UnpackedFloat} :
    a.compare b = some .eq ↔ ∃ mark, valueMark a = some mark ∧ valueMark b = some mark := by
  delta UnpackedFloat.compare valueMark
  cases a with
  | notANumber => simp
  | infinity s =>
      cases b with
      | infinity t => cases s <;> cases t <;> simp [compare]
      | finite t n f _ => cases s <;> cases t <;> simp
      | _ => cases s <;> simp
  | zero s =>
      cases b with
      | infinity t => cases t <;> simp
      | finite t n f _ => cases t <;> simp
      | _ => simp
  | finite s m e _ =>
      cases b with
      | infinity t => cases s <;> cases t <;> simp
      | finite t n f _ =>
          have turned : (e = f ∧ m = n) ↔ (f = e ∧ n = m) := and_congr eq_comm eq_comm
          cases s <;> cases t <;> simp [turned]
      | _ => cases s <;> simp

def mark? (x : Float) : Option (Int × Int × Nat) := valueMark x.toModel.unpack

/-- Numbers are equal when they have one mark. -/
theorem beq_iff {x y : Float} :
    (x == y) = true ↔ ∃ mark, mark? x = some mark ∧ mark? y = some mark := by
  have : (x == y) = (x.toModel.unpack.compare y.toModel.unpack == some .eq) := rfl
  rw [this, beq_iff_eq, compare_eq_some_eq]
  rfl

/-! ## Bit patterns -/

/-- A number is given by its bit pattern. -/
theorem toBits_inj {x y : Float} (h : x.toBits = y.toBits) : x = y := by
  obtain ⟨⟨a, _⟩⟩ := x
  obtain ⟨⟨b, _⟩⟩ := y
  obtain rfl : a = b := h
  rfl

/-! ## Numbers that are not finite -/

/-- The exponent of a number that is not finite has all its bits set. -/
theorem unpackExponent_of_not_isFinite {x : Float} (h : x.isFinite = false) :
    @UnpackedFloat.unpackExponent Format.binary64 x.toBits.toBitVec = -1#_ := by
  by_contra other
  have unpacked : (UnpackedFloat.unpack Format.binary64 x.toBits.toBitVec).isFinite = false := h
  delta UnpackedFloat.unpack at unpacked
  dsimp only at unpacked
  rw [if_neg other] at unpacked
  by_cases subnormal : @UnpackedFloat.unpackExponent Format.binary64 x.toBits.toBitVec = 0#_
  · rw [if_pos subnormal] at unpacked
    by_cases zero : @UnpackedFloat.unpackMantissa Format.binary64 x.toBits.toBitVec = 0#_
    · rw [dif_pos zero] at unpacked
      cases unpacked
    · rw [dif_neg zero] at unpacked
      cases unpacked
  · rw [if_neg subnormal] at unpacked
    cases unpacked

/-- What is not finite is no number or one of the infinities. There is one pattern for what is no
number, and an infinity has no mantissa, so only its sign is left open. -/
theorem eq_of_not_isFinite {x : Float} (h : x.isFinite = false) :
    x = 0 / 0 ∨ x = 1 / 0 ∨ x = -(1 / 0) := by
  have exponent := unpackExponent_of_not_isFinite h
  by_cases mantissa :
    @UnpackedFloat.unpackMantissa Format.binary64 x.toBits.toBitVec = 0#_
  · right
    have highest : x.toBits.toNat / 4503599627370496 % 2048 = 2047 := by
      simpa [UnpackedFloat.unpackExponent, Nat.shiftRight_eq_div_pow]
        using congrArg BitVec.toNat exponent
    have empty : x.toBits.toNat % 4503599627370496 = 0 := by
      simpa [UnpackedFloat.unpackMantissa] using congrArg BitVec.toNat mantissa
    have positive : (1 / 0 : Float).toBits.toNat = 9218868437227405312 := by decide +kernel
    have negative : (-(1 / 0) : Float).toBits.toNat = 18442240474082181120 := by decide +kernel
    have sign : x.toBits.toNat = 9218868437227405312 ∨ x.toBits.toNat = 18442240474082181120 := by
      have below := x.toBits.toNat_lt
      omega
    rcases sign with bits | bits
    · exact .inl (toBits_inj (UInt64.toNat_inj.1 (bits.trans positive.symm)))
    · exact .inr (toBits_inj (UInt64.toNat_inj.1 (bits.trans negative.symm)))
  · left
    have bits : x.toBits.toBitVec = UnpackedFloat.packedNaN Format.binary64 :=
      x.toModel.valid.eq_packedNaN exponent mantissa
    have notNumber : (0 / 0 : Float).toBits.toBitVec = UnpackedFloat.packedNaN Format.binary64 := by
      decide +kernel
    exact toBits_inj (UInt64.toBitVec_inj.1 (bits.trans notNumber.symm))

/-- There is one number that is no number. -/
theorem eq_of_isNaN {x : Float} (h : x.isNaN = true) : x = 0 / 0 := by
  have notFinite : x.isFinite = false := by
    have unpacked : x.toModel.unpack.isNaN = true := h
    change x.toModel.unpack.isFinite = false
    cases kind : x.toModel.unpack with
    | notANumber => rfl
    | _ =>
        rw [kind] at unpacked
        cases unpacked
  rcases eq_of_not_isFinite notFinite with rfl | rfl | rfl
  · rfl
  · exact absurd h (by decide +kernel)
  · exact absurd h (by decide +kernel)

/-! ## Numbers of one value -/

/-- The mark of a number with the given parts: its sign bit, the code of its exponent and its
fraction. -/
def markOfParts (sign biased fraction : Nat) : Option (Int × Int × Nat) :=
  if biased = 2047 then if fraction = 0 then some (2 - 4 * sign, 0, 0) else none
  else if biased = 0 then
    if fraction = 0 then some (0, 0, 0) else some (1 - 2 * sign, -1074, fraction)
  else some (1 - 2 * sign, (biased : Int) - 1075, leastNormal + fraction)

theorem markOfParts_eq_zero {s e f : Nat} :
    markOfParts s e f = some (0, 0, 0) ↔ e = 0 ∧ f = 0 := by
  unfold markOfParts leastNormal
  grind

/-- Marks tell parts apart, but for the sign of zero. -/
theorem markOfParts_inj {s e f s' e' f' : Nat} (hf : f < leastNormal) (hf' : f' < leastNormal)
    {mark : Int × Int × Nat} (notZero : mark ≠ (0, 0, 0)) (first : markOfParts s e f = some mark)
    (second : markOfParts s' e' f' = some mark) : s = s' ∧ e = e' ∧ f = f' := by
  unfold markOfParts at first second
  grind

variable {x y : Float}

theorem toNat_unpackMantissa (x : Float) :
    (@UnpackedFloat.unpackMantissa Format.binary64 x.toBits.toBitVec).toNat =
      x.toBits.toNat % leastNormal := by
  simp [UnpackedFloat.unpackMantissa, leastNormal]

theorem toNat_unpackExponent (x : Float) :
    (@UnpackedFloat.unpackExponent Format.binary64 x.toBits.toBitVec).toNat =
      x.toBits.toNat / leastNormal % exponentCodes := by
  simp [UnpackedFloat.unpackExponent, leastNormal, exponentCodes, Nat.shiftRight_eq_div_pow]

theorem apply_unpackSign (x : Float) :
    (UnpackedFloat.Sign.ofBitVec
      (@UnpackedFloat.unpackSign Format.binary64 x.toBits.toBitVec)).apply 1 =
        1 - 2 * (x.toBits.toNat / signBit : Nat) := by
  have below := x.toBits.toNat_lt
  have bit : @UnpackedFloat.unpackSign Format.binary64 x.toBits.toBitVec = 0#1 ↔
      x.toBits.toNat / signBit = 0 := by
    rw [← BitVec.toNat_inj]
    change x.toBits.toNat >>> 63 % 2 = 0 ↔ _
    rw [Nat.shiftRight_eq_div_pow]
    unfold signBit
    omega
  unfold UnpackedFloat.Sign.ofBitVec
  by_cases positive : x.toBits.toNat / signBit = 0
  · rw [if_pos (bit.2 positive), positive]
    rfl
  · have one : x.toBits.toNat / signBit = 1 := by
      unfold signBit at positive ⊢
      omega
    rw [if_neg fun h => positive (bit.1 h), one]
    rfl

theorem valueMark_infinity (s : UnpackedFloat.Sign) :
    valueMark (.infinity s) = some (2 * s.apply 1, 0, 0) := by
  cases s <;> rfl

theorem valueMark_finite (s : UnpackedFloat.Sign) {m : Nat} (e : Int) (h : 0 < m) :
    valueMark (.finite s m e h) = some (s.apply 1, e, m) := by
  cases s <;> rfl

/-- The mark of a number is read off its bit pattern. -/
theorem mark?_eq (x : Float) :
    mark? x = markOfParts (x.toBits.toNat / signBit)
      (x.toBits.toNat / leastNormal % exponentCodes) (x.toBits.toNat % leastNormal) := by
  have noFraction : @UnpackedFloat.unpackMantissa Format.binary64 x.toBits.toBitVec = 0#_ ↔
      x.toBits.toNat % leastNormal = 0 := by
    rw [← BitVec.toNat_inj, toNat_unpackMantissa]
    rfl
  have highest : @UnpackedFloat.unpackExponent Format.binary64 x.toBits.toBitVec = -1#_ ↔
      x.toBits.toNat / leastNormal % exponentCodes = 2047 := by
    rw [← BitVec.toNat_inj, toNat_unpackExponent]
    rfl
  have lowest : @UnpackedFloat.unpackExponent Format.binary64 x.toBits.toBitVec = 0#_ ↔
      x.toBits.toNat / leastNormal % exponentCodes = 0 := by
    rw [← BitVec.toNat_inj, toNat_unpackExponent]
    rfl
  have normal : (1#1 ++ @UnpackedFloat.unpackMantissa Format.binary64 x.toBits.toBitVec).toNat =
      leastNormal + x.toBits.toNat % leastNormal := by
    rw [BitVec.toNat_append, toNat_unpackMantissa]
    exact (Nat.shiftLeft_add_eq_or_of_lt (Nat.mod_lt _ (by decide)) 1).symm
  change valueMark (UnpackedFloat.unpack Format.binary64 x.toBits.toBitVec) = _
  unfold UnpackedFloat.unpack markOfParts
  dsimp only
  by_cases top : x.toBits.toNat / leastNormal % exponentCodes = 2047
  · rw [if_pos (highest.2 top), if_pos top]
    by_cases none : x.toBits.toNat % leastNormal = 0
    · rw [if_pos (noFraction.2 none), if_pos none, valueMark_infinity, apply_unpackSign,
        Int.mul_sub, ← Int.mul_assoc]
      rfl
    · rw [if_neg (mt noFraction.1 none), if_neg none]
      rfl
  rw [if_neg (mt highest.1 top), if_neg top]
  by_cases bottom : x.toBits.toNat / leastNormal % exponentCodes = 0
  · rw [if_pos (lowest.2 bottom), if_pos bottom]
    by_cases none : x.toBits.toNat % leastNormal = 0
    · rw [dif_pos (noFraction.2 none), if_pos none]
      rfl
    · rw [dif_neg (mt noFraction.1 none), if_neg none, valueMark_finite, apply_unpackSign,
        toNat_unpackMantissa, toNat_unpackExponent, bottom]
      rfl
  · rw [if_neg (mt lowest.1 bottom), if_neg bottom, valueMark_finite, apply_unpackSign, normal,
      toNat_unpackExponent]
    rfl

/-- The numbers that are equal to zero are zero and minus zero. -/
theorem beq_zero_iff : (x == 0) = true ↔ x = 0 ∨ x = -0.0 := by
  have zero : mark? 0 = some (0, 0, 0) := by decide +kernel
  have marked : (x == 0) = true ↔ mark? x = some (0, 0, 0) := by
    rw [beq_iff, zero]
    simp
  refine ⟨fun equal => ?_, ?_⟩
  · have parts := marked.1 equal
    rw [mark?_eq, markOfParts_eq_zero] at parts
    have plus : (0 : Float).toBits.toNat = 0 := by decide +kernel
    have minus : (-0.0 : Float).toBits.toNat = signBit := by decide +kernel
    have sign : x.toBits.toNat = 0 ∨ x.toBits.toNat = signBit := by
      have below := x.toBits.toNat_lt
      unfold leastNormal exponentCodes at parts
      unfold signBit
      omega
    rcases sign with bits | bits
    · exact .inl (toBits_inj (UInt64.toNat_inj.1 (bits.trans plus.symm)))
    · exact .inr (toBits_inj (UInt64.toNat_inj.1 (bits.trans minus.symm)))
  · rintro (rfl | rfl) <;> decide +kernel

/-- Numbers that are equal are identical, or are the two zeros. -/
theorem eq_or_zero_of_beq (h : (x == y) = true) : x = y ∨ (x == 0) = true ∧ (y == 0) = true := by
  obtain ⟨mark, hx, hy⟩ := beq_iff.1 h
  by_cases zero : mark = (0, 0, 0)
  · subst zero
    have plain : mark? 0 = some (0, 0, 0) := by decide +kernel
    exact .inr ⟨beq_iff.2 ⟨_, hx, plain⟩, beq_iff.2 ⟨_, hy, plain⟩⟩
  · left
    rw [mark?_eq] at hx hy
    have positive : 0 < leastNormal := by decide
    obtain ⟨sign, exponent, fraction⟩ :=
      markOfParts_inj (Nat.mod_lt _ positive) (Nat.mod_lt _ positive) zero hx hy
    refine toBits_inj (UInt64.toNat_inj.1 ?_)
    simp only [leastNormal, exponentCodes, signBit] at sign exponent fraction
    omega

end ItemScoring.Binary64
