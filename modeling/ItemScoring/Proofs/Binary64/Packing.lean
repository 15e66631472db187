import Mathlib
import ItemScoring.Proofs.Binary64

/-!
# Rounding and packing

The result of an exact computation is rounded to a mantissa of 53 digits by shifting its digits
out. Two bits are kept of them, and these decide as much as the remainder of the division by the
power of two would: the mantissa is the nearest integer to the quotient, and a tie goes to the even
one. When that makes a mantissa of 54 digits, it is a power of two and is shifted once more. A
number with a mantissa of 53 digits has a bit pattern of its own, from which its parts are found
again.
-/

set_option autoImplicit false

namespace ItemScoring.Binary64

open Float.Model UnpackedFloat

/-- A mantissa has 53 digits. -/
structure IsFull (m : Nat) : Prop where
  low : leastNormal ≤ m
  high : m < 2 * leastNormal

theorem IsFull.pos {m : Nat} (h : IsFull m) : 0 < m := Nat.lt_of_lt_of_le (by decide) h.low

theorem IsFull.log2_eq {m : Nat} (h : IsFull m) : m.log2 = 52 := by
  rw [Nat.log2_eq_iff h.pos.ne']
  exact ⟨h.low, h.high⟩

/-! ## Shifting -/

/-- Of the digits that are shifted out, the first one is kept, and whether there is another one. -/
theorem shift_succ (m k : Nat) :
    ExtendedMantissa.ofMantissaAndAccuracy m .exact >>> (k + 1) =
      ⟨m / 2 ^ (k + 1), m / 2 ^ k % 2 != 0, m % 2 ^ k != 0⟩ := by
  induction k with
  | zero =>
      change ExtendedMantissa.mk (m / 2) (m % 2 != 0) (false || false) = _
      simp [Nat.mod_one]
  | succ k ih =>
      change ExtendedMantissa.shiftRightOne
        (ExtendedMantissa.ofMantissaAndAccuracy m .exact >>> (k + 1)) = _
      rw [ih, ExtendedMantissa.shiftRightOne]
      congr 1
      · rw [Nat.div_div_eq_div_mul, ← pow_succ]
      · have digits : m % 2 ^ (k + 1) = m % 2 ^ k + 2 ^ k * (m / 2 ^ k % 2) := by
          rw [pow_succ, Nat.mod_mul]
        rw [digits]
        rcases Nat.mod_two_eq_zero_or_one (m / 2 ^ k) with bit | bit <;> simp [bit]

theorem mantissa_shift (m k : Nat) :
    (ExtendedMantissa.ofMantissaAndAccuracy m .exact >>> k).mantissa = m / 2 ^ k := by
  cases k with
  | zero =>
      change m = _
      simp
  | succ k => rw [shift_succ]

theorem round_nearestEven (negative : Bool) (n d : Nat) :
    Direction.nearestEven.round negative n d =
      if d < 2 * (n % d) ∨ 2 * (n % d) = d ∧ n / d % 2 = 1 then n / d + 1 else n / d := by
  simp [Direction.round]

/-- The two bits decide as the remainder does of which they are the first digit and what is left. -/
theorem roundedMantissa_eq (q power bit rest : Nat) (binary : bit = 0 ∨ bit = 1)
    (small : rest < power) :
    (ExtendedMantissa.mk q (bit != 0) (rest != 0)).roundedMantissa =
      if power * 2 < 2 * (rest + power * bit) ∨ 2 * (rest + power * bit) = power * 2 ∧ q % 2 = 1
      then q + 1 else q := by
  rcases binary with rfl | rfl
  · rw [if_neg (by omega)]
    cases rest <;> rfl
  · cases rest with
    | zero =>
        change q + q % 2 = _
        split_ifs <;> omega
    | succ rest =>
        rw [if_pos (by omega)]
        rfl

/-- A mantissa that has been shifted is rounded as its quotient by the power of two is. -/
theorem roundedMantissa_shift (m k : Nat) :
    (ExtendedMantissa.ofMantissaAndAccuracy m .exact >>> k).roundedMantissa =
      Direction.nearestEven.round false m (2 ^ k) := by
  rw [round_nearestEven]
  cases k with
  | zero =>
      change m = _
      simp [Nat.mod_one]
  | succ k =>
      have digits : m % (2 ^ k * 2) = m % 2 ^ k + 2 ^ k * (m / 2 ^ k % 2) := Nat.mod_mul
      rw [shift_succ, pow_succ, digits]
      exact roundedMantissa_eq _ _ _ _ (Nat.mod_two_eq_zero_or_one _)
        (Nat.mod_lt _ (Nat.two_pow_pos k))

/-- All digits beyond the first 53 are shifted out, as long as the exponent stays in range. -/
theorem shiftToTargetExponent_eq {m k : Nat} {e : Int} (digits : m.log2 = 52 + k)
    (least : -1074 ≤ e + k) :
    shiftToTargetExponent Format.binary64 m e .exact =
      (ExtendedMantissa.ofMantissaAndAccuracy m .exact >>> k, e + k) := by
  have target : Format.binary64.targetExponent (totalExponent m e) = e + k := by
    change max ((m.log2 : Int) + 1 + e - 53) (-1074) = e + k
    omega
  have amount : (e + k - e).toNat = k := by omega
  rw [shiftToTargetExponent, target, shiftToExponent, amount]

/-! ## Rounding -/

/-- A number is rounded to the nearest mantissa, and the digit that this may add is shifted out. -/
theorem roundWithAccuracy_eq (s : Sign) {m k r c : Nat} {e : Int} (digits : m.log2 = 52 + k)
    (least : -1074 ≤ e + k) (rounded : Direction.nearestEven.round false m (2 ^ k) = r)
    (added : r.log2 = 52 + c) (full : IsFull (r / 2 ^ c)) :
    roundWithAccuracy Format.binary64 s m e .exact =
      .finite s (r / 2 ^ c) (e + k + c) full.pos := by
  have mantissa := mantissa_shift r c
  unfold roundWithAccuracy
  rw [shiftToTargetExponent_eq digits least]
  dsimp only
  rw [roundedMantissa_shift, rounded, shiftToTargetExponent_eq added (by omega)]
  dsimp only
  generalize (ExtendedMantissa.ofMantissaAndAccuracy r .exact >>> c).mantissa = q at *
  subst mantissa
  rw [dif_neg full.pos.ne']

/-! ## Packing -/

theorem unpackSign_packComponents (s : Sign) (e : BitVec 11) (m : BitVec 52) :
    unpackSign (packComponents Format.binary64 s e m) = s.toBitVec := by
  change ((s.toBitVec ++ e) ++ m).extractLsb' 63 1 = s.toBitVec
  rw [BitVec.extractLsb'_append_eq_of_le (by decide),
    BitVec.extractLsb'_append_eq_of_le (by decide)]
  exact BitVec.extractLsb'_eq_self

theorem ofBitVec_toBitVec (s : Sign) : Sign.ofBitVec s.toBitVec = s := by
  cases s <;> rfl

theorem pack_finite (s : Sign) {m : Nat} {e : Int} (full : IsFull m) (greatest : e ≤ 971) :
    UnpackedFloat.pack Format.binary64 (.finite s m e full.pos) =
      packComponents Format.binary64 s (BitVec.ofNat 11 (e + 1023 + 52).toNat)
        (BitVec.ofNat 52 m) := by
  have digits := full.log2_eq
  change (if 2048 ≤ (e + 1023 + 52).toNat + 1 then _ else if m.log2 + 1 = 53 then _ else _) = _
  rw [if_neg (by omega), if_pos (by omega)]
  rfl

theorem toNat_append_ofNat {m : Nat} (full : IsFull m) : (1#1 ++ BitVec.ofNat 52 m).toNat = m := by
  obtain ⟨low, high⟩ := full
  have rest : (BitVec.ofNat 52 m).toNat = m - leastNormal := by
    rw [BitVec.toNat_ofNat]
    unfold leastNormal at *
    omega
  have joined : (1#1 ++ BitVec.ofNat 52 m).toNat = leastNormal + (m - leastNormal) := by
    rw [BitVec.toNat_append, rest]
    exact (Nat.shiftLeft_add_eq_or_of_lt (by unfold leastNormal at *; omega) 1).symm
  omega

theorem toNat_append_pos (m : BitVec 52) : 0 < (1#1 ++ m).toNat := by
  rw [BitVec.toNat_append]
  exact Nat.lt_of_lt_of_le (by decide : 0 < (1#1).toNat <<< 52) Nat.left_le_or

/-- Parts that are packed are found again, when the exponent is neither of the codes for something
other than a number with a mantissa of 53 digits. -/
theorem unpack_packComponents (s : Sign) {e : BitVec 11} (m : BitVec 52) (notHighest : e ≠ -1#_)
    (notLowest : e ≠ 0#_) :
    UnpackedFloat.unpack Format.binary64 (packComponents Format.binary64 s e m) =
      .finite s (1#1 ++ m).toNat (e.toNat - 1075) (toNat_append_pos m) := by
  have exponent : unpackExponent (packComponents Format.binary64 s e m) = e :=
    unpackExponent_packComponents
  have mantissa : unpackMantissa (packComponents Format.binary64 s e m) = m :=
    unpackMantissa_packComponents
  have sign := unpackSign_packComponents s e m
  unfold UnpackedFloat.unpack
  dsimp only
  generalize packComponents Format.binary64 s e m = bits at *
  rw [if_neg (exponent ▸ notHighest), if_neg (exponent ▸ notLowest), UnpackedFloat.finite.injEq]
  refine ⟨?_, ?_, ?_⟩
  · rw [sign, ofBitVec_toBitVec]
  · rw [mantissa]
  · rw [exponent]
    rfl

/-- A number with a mantissa of 53 digits and an exponent in range survives packing. -/
theorem unpack_pack_finite (s : Sign) {m : Nat} {e : Int} (full : IsFull m)
    (least : -1074 ≤ e) (greatest : e ≤ 971) :
    (Float.Model.pack (.finite s m e full.pos)).unpack = .finite s m e full.pos := by
  have exponent : (BitVec.ofNat 11 (e + 1023 + 52).toNat).toNat = (e + 1023 + 52).toNat := by
    rw [BitVec.toNat_ofNat]
    exact Nat.mod_eq_of_lt (by omega)
  have notHighest : BitVec.ofNat 11 (e + 1023 + 52).toNat ≠ -1#_ := by
    intro all
    have value : (e + 1023 + 52).toNat = 2047 := exponent.symm.trans (congrArg BitVec.toNat all)
    omega
  have notLowest : BitVec.ofNat 11 (e + 1023 + 52).toNat ≠ 0#_ := by
    intro none
    have value : (e + 1023 + 52).toNat = 0 := exponent.symm.trans (congrArg BitVec.toNat none)
    omega
  change UnpackedFloat.unpack Format.binary64 (UnpackedFloat.pack Format.binary64 _) = _
  rw [pack_finite s full greatest, unpack_packComponents s _ notHighest notLowest,
    UnpackedFloat.finite.injEq]
  refine ⟨rfl, toNat_append_ofNat full, ?_⟩
  omega

end ItemScoring.Binary64
