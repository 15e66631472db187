import ItemScoring.Proofs.Binary64

/-!
# Bit patterns

Every number has a pattern from which it is found again (`toFloat_ofFloat`), and every pattern of a
number is the one that the number has (`ofFloat_toFloat`): only what is no number has several. The
total order tells all patterns apart, those of what is no number included. The two zeros stand next
to each other in it.
-/

set_option autoImplicit false

namespace ItemScoring.Binary64

open Float.Model UnpackedFloat

/-! ## Packing what was unpacked -/

/-- The sign, the exponent and the fraction make up a pattern. -/
theorem packComponents_unpack (bits : BitVec 64) :
    packComponents Format.binary64 (Sign.ofBitVec (@unpackSign Format.binary64 bits))
      (@unpackExponent Format.binary64 bits) (@unpackMantissa Format.binary64 bits) = bits := by
  have sign : ∀ b : BitVec 1, (Sign.ofBitVec b).toBitVec = b := by decide
  have upper : bits.extractLsb' 63 1 ++ bits.extractLsb' 52 11 = bits.extractLsb' 52 12 :=
    BitVec.extractLsb'_append_extractLsb'_eq_extractLsb' rfl
  have whole : bits.extractLsb' 52 12 ++ bits.extractLsb' 0 52 = bits.extractLsb' 0 64 :=
    BitVec.extractLsb'_append_extractLsb'_eq_extractLsb' rfl
  change (Sign.toBitVec (Sign.ofBitVec (bits.extractLsb' 63 1)) ++ bits.extractLsb' 52 11) ++
    bits.extractLsb' 0 52 = bits
  rw [sign, upper, whole]
  exact BitVec.extractLsb'_eq_self

/-- A number below the normal ones is packed without an exponent. -/
theorem pack_finite_subnormal (s : Sign) {m : BitVec 52} (positive : 0 < m.toNat) :
    UnpackedFloat.pack Format.binary64 (.finite s m.toNat (-1074) positive) =
      packComponents Format.binary64 s 0#11 m := by
  have digits : m.toNat.log2 + 1 ≠ Format.binary64.mantissaBits := by
    change _ ≠ 53
    have below := (Nat.log2_lt (Nat.ne_of_gt positive)).2 m.isLt
    omega
  unfold UnpackedFloat.pack
  dsimp only
  rw [if_neg (by decide), if_neg digits, BitVec.ofNat_toNat, BitVec.setWidth_eq]

/-- A number with a mantissa of 53 digits is packed without the first of them. -/
theorem pack_finite_normal (s : Sign) {e : BitVec 11} {m : BitVec 52} (notHighest : e ≠ -1#11)
    (positive : 0 < (1#1 ++ m).toNat) :
    UnpackedFloat.pack Format.binary64
        (.finite s (1#1 ++ m).toNat ((e.toNat : Int) - 1075) positive) =
      packComponents Format.binary64 s e m := by
  have digits : (1#1 ++ m).toNat.log2 + 1 = 53 := by
    have value : (1#1 ++ m).toNat = 2 ^ 52 + m.toNat := by
      rw [BitVec.toNat_append]
      exact (Nat.shiftLeft_add_eq_or_of_lt m.isLt 1).symm
    have below := m.isLt
    have log : (1#1 ++ m).toNat.log2 = 52 := (Nat.log2_eq_iff (Nat.ne_of_gt positive)).2 (by omega)
    omega
  have exponent : ((e.toNat : Int) - 1075 + 1023 + 52).toNat = e.toNat := by omega
  have small : ¬ 2048 ≤ e.toNat + 1 := by
    intro large
    have highest : e.toNat = 2047 := by
      have := e.isLt
      omega
    exact notHighest (BitVec.eq_of_toNat_eq highest)
  have fraction : BitVec.ofNat 52 (1#1 ++ m).toNat = m := by
    rw [BitVec.ofNat_toNat]
    exact BitVec.setWidth_append_eq_right
  change (if 2048 ≤ ((e.toNat : Int) - 1075 + 1023 + 52).toNat + 1 then _ else
    if (1#1 ++ m).toNat.log2 + 1 = 53 then packComponents Format.binary64 s
      (BitVec.ofNat 11 ((e.toNat : Int) - 1075 + 1023 + 52).toNat)
      (BitVec.ofNat 52 (1#1 ++ m).toNat) else _) = _
  rw [exponent, if_neg small, if_pos digits, fraction, BitVec.ofNat_toNat, BitVec.setWidth_eq]

/-- The pattern of a number, and the one pattern that arithmetic uses for what is no number, are
found again. -/
theorem pack_unpack {bits : BitVec 64} (valid : Format.binary64.Valid bits) :
    UnpackedFloat.pack Format.binary64 (UnpackedFloat.unpack Format.binary64 bits) = bits := by
  have parts := packComponents_unpack bits
  unfold UnpackedFloat.unpack
  dsimp only
  by_cases highest : @unpackExponent Format.binary64 bits = -1#_
  · rw [if_pos highest]
    by_cases empty : @unpackMantissa Format.binary64 bits = 0#_
    · rw [highest, empty] at parts
      rw [if_pos empty]
      exact parts
    · rw [if_neg empty]
      exact (valid.eq_packedNaN highest empty).symm
  rw [if_neg highest]
  by_cases lowest : @unpackExponent Format.binary64 bits = 0#_
  · rw [if_pos lowest]
    by_cases empty : @unpackMantissa Format.binary64 bits = 0#_
    · rw [lowest, empty] at parts
      rw [dif_pos empty]
      exact parts
    · rw [lowest] at parts ⊢
      rw [dif_neg empty]
      exact (pack_finite_subnormal _ _).trans parts
  · rw [if_neg lowest]
    exact (pack_finite_normal _ highest _).trans parts

/-! ## Patterns of numbers -/

/-- A number is found again from its pattern. -/
@[simp] theorem toFloat_ofFloat (x : Float) : (ofFloat x).toFloat = x := by
  refine toBits_inj (UInt64.toBitVec_inj.1 ?_)
  exact pack_unpack x.toModel.valid

@[simp] theorem ofFloat_inj {x y : Float} : ofFloat x = ofFloat y ↔ x = y := by
  refine ⟨fun same => ?_, congrArg ofFloat⟩
  rw [← toFloat_ofFloat x, same, toFloat_ofFloat]

/-- A pattern of a number is the one that the number has. -/
theorem ofFloat_toFloat {b : Binary64} (number : b.toFloat.isNaN = false) :
    ofFloat b.toFloat = b := by
  have unused : ¬ (@unpackExponent Format.binary64 b.bits.toBitVec = -1#_ ∧
      @unpackMantissa Format.binary64 b.bits.toBitVec ≠ 0#_) := by
    rintro ⟨highest, notEmpty⟩
    have unpacked : UnpackedFloat.unpack Format.binary64 b.bits.toBitVec = .notANumber := by
      unfold UnpackedFloat.unpack
      dsimp only
      rw [if_pos highest, if_neg notEmpty]
    have same : b.toFloat = 0 / 0 := by
      refine toBits_inj (UInt64.toBitVec_inj.1 ?_)
      change UnpackedFloat.pack Format.binary64
        (UnpackedFloat.unpack Format.binary64 b.bits.toBitVec) = _
      rw [unpacked]
      decide +kernel
    rw [same] at number
    exact absurd number (by decide +kernel)
  have packed : UnpackedFloat.pack Format.binary64
      (UnpackedFloat.unpack Format.binary64 b.bits.toBitVec) = b.bits.toBitVec :=
    pack_unpack ⟨fun highest notEmpty => absurd ⟨highest, notEmpty⟩ unused⟩
  obtain ⟨bits⟩ := b
  exact congrArg Binary64.mk (UInt64.toBitVec_inj.1 packed)

/-- Patterns of one number are identical. -/
theorem toFloat_inj {a b : Binary64} (number : a.toFloat.isNaN = false)
    (h : a.toFloat = b.toFloat) : a = b := by
  rw [← ofFloat_toFloat number, h, ofFloat_toFloat (h ▸ number)]

variable {a b : Binary64}

theorem isNaN_of_beq {x y : Float} (h : (x == y) = true) : x.isNaN = false := by
  obtain ⟨mark, hx, -⟩ := beq_iff.1 h
  change x.toModel.unpack.isNaN = false
  unfold mark? at hx
  cases kind : x.toModel.unpack with
  | notANumber =>
      rw [kind] at hx
      cases hx
  | _ => rfl

/-- The patterns that are equal to zero are those of zero and of minus zero. -/
theorem toFloat_beq_zero_iff :
    (b.toFloat == 0) = true ↔ b = ofFloat 0 ∨ b = ofFloat (-0.0) := by
  constructor
  · intro zero
    have kept := ofFloat_toFloat (isNaN_of_beq zero)
    rcases beq_zero_iff.1 zero with same | same
    · exact .inl (kept.symm.trans (congrArg ofFloat same))
    · exact .inr (kept.symm.trans (congrArg ofFloat same))
  · rintro (rfl | rfl) <;> decide +kernel

/-- Patterns of equal numbers are identical, or are those of the two zeros. -/
theorem eq_or_zero_of_toFloat_beq (h : (a.toFloat == b.toFloat) = true) :
    a = b ∨ (a.toFloat == 0) = true ∧ (b.toFloat == 0) = true :=
  (eq_or_zero_of_beq h).imp_left (toFloat_inj (isNaN_of_beq h))

/-! ## The order of patterns -/

/-- No two patterns have one place in the order, those of what is no number included. -/
theorem orderKey_inj (h : orderKey a = orderKey b) : a = b := by
  obtain ⟨p⟩ := a
  obtain ⟨q⟩ := b
  have below : signBit = 9223372036854775808 := rfl
  refine congrArg Binary64.mk (UInt64.toNat_inj.1 ?_)
  unfold orderKey at h
  dsimp only at h
  split at h <;> split at h <;> omega

/-- The two zeros have neighbouring places in the order. -/
theorem toFloat_beq_zero_iff_orderKey :
    (b.toFloat == 0) = true ↔ orderKey b = 0 ∨ orderKey b = -1 := by
  have plus : orderKey (ofFloat 0) = 0 := by decide +kernel
  have minus : orderKey (ofFloat (-0.0)) = -1 := by decide +kernel
  rw [toFloat_beq_zero_iff]
  refine or_congr ⟨?_, ?_⟩ ⟨?_, ?_⟩
  · exact fun same => same ▸ plus
  · exact fun key => orderKey_inj (key.trans plus.symm)
  · exact fun same => same ▸ minus
  · exact fun key => orderKey_inj (key.trans minus.symm)

end ItemScoring.Binary64
