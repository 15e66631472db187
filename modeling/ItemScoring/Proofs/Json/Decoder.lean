import Mathlib
import ItemScoring.Proofs.Binary64.Magnitude
import ItemScoring.Proofs.Json.Literal

/-!
# Decoding number literals

A literal that stands for no integer is decoded into a floating-point number. A decoder need not
come closest to what is written: one that collects the digits in a word of 64 bits and multiplies or
divides by a power of ten does so for short literals only. What such a decoder still promises is
`Decoder.Lawful`, and the closest decoder keeps the promises as well (`Decoder.lawful_nearest`).
-/

set_option autoImplicit false

namespace ItemScoring

open Binary64 (Rounds value withSign)
open Integer (digitsValue)

/-! ## Digits -/

namespace Integer

theorem digitValue_lt {c : Char} (digit : c.isDigit = true) : digitValue c < 10 := by
  simp only [Char.isDigit, Bool.and_eq_true, decide_eq_true_eq, ge_iff_le, UInt32.le_iff_toNat_le]
    at digit
  have nine : ('9' : Char).val.toNat = 57 := rfl
  have zero : ('0' : Char).toNat = 48 := rfl
  have code : c.val.toNat = c.toNat := rfl
  rw [nine, code] at digit
  unfold digitValue
  omega

/-- Digits that follow a number place it between two multiples of a power of ten. -/
theorem digitsValue_bounds {ds : List Char} (digits : ∀ c ∈ ds, c.isDigit = true) (sofar : Nat) :
    sofar * 10 ^ ds.length ≤ digitsValue sofar ds ∧
      digitsValue sofar ds < (sofar + 1) * 10 ^ ds.length := by
  induction ds generalizing sofar with
  | nil => simp [digitsValue]
  | cons c ds ih =>
      obtain ⟨digit, others⟩ := List.forall_mem_cons.1 digits
      obtain ⟨low, high⟩ := ih others (10 * sofar + digitValue c)
      have small := digitValue_lt digit
      have step : digitsValue sofar (c :: ds) = digitsValue (10 * sofar + digitValue c) ds := rfl
      rw [step, List.length_cons, pow_succ']
      constructor
      · calc sofar * (10 * 10 ^ ds.length) = 10 * sofar * 10 ^ ds.length := by ring
          _ ≤ (10 * sofar + digitValue c) * 10 ^ ds.length :=
            Nat.mul_le_mul_right _ (Nat.le_add_right _ _)
          _ ≤ digitsValue (10 * sofar + digitValue c) ds := low
      · calc digitsValue (10 * sofar + digitValue c) ds
            < (10 * sofar + digitValue c + 1) * 10 ^ ds.length := high
          _ ≤ (10 * (sofar + 1)) * 10 ^ ds.length := Nat.mul_le_mul_right _ (by omega)
          _ = (sofar + 1) * (10 * 10 ^ ds.length) := by ring

end Integer

/-! ## The number that is written -/

namespace Json.Literal

variable (l : Literal)

/-- The magnitude that all digits and the exponent make. -/
def magnitude : ℚ := digitsValue 0 (l.whole ++ l.fraction) * 10 ^ (l.scale - l.fraction.length)

/-- The exact number that is written. -/
def exact : ℚ := withSign l.negative 1 * l.magnitude

theorem rounds_nearest : Rounds l.exact l.nearest := by
  have unsigned := Binary64.rounds_ofDecimal (digitsValue 0 (l.whole ++ l.fraction))
    (l.scale - l.fraction.length)
  unfold exact nearest
  cases l.negative with
  | false => simpa [withSign, Binary64.signed, magnitude] using unsigned
  | true => simpa [withSign, Binary64.signed, magnitude] using unsigned.neg

theorem scale_eq_zero (unscaled : l.exponent = []) : l.scale = 0 := by
  have nothing {e : Int} (scales : Binary64.Scales [] e) : e = 0 := by
    cases scales
    rfl
  exact nothing (unscaled ▸ l.scales)

theorem exact_of_isPlain (plain : l.IsPlain) : l.exact = l.wholeNumber := by
  unfold exact magnitude wholeNumber
  rw [plain.1, List.append_nil, l.scale_eq_zero plain.2, List.length_nil, Nat.cast_zero, sub_zero,
    zpow_zero, mul_one, Binary64.withSign_eq_mul l.negative (digitsValue 0 l.whole), Int.cast_mul,
    Int.cast_natCast]

/-- Without an exponent, the magnitude lies between the whole digits and the next integer, and it is
at least one unit of its last place away from that. -/
theorem magnitude_bounds (unscaled : l.exponent = []) :
    digitsValue 0 l.whole ≤ l.magnitude ∧
      l.magnitude ≤ digitsValue 0 l.whole + 1 - 1 / 10 ^ l.fraction.length := by
  obtain ⟨low, high⟩ := Integer.digitsValue_bounds l.others (digitsValue 0 l.whole)
  have joined : digitsValue 0 (l.whole ++ l.fraction) =
      digitsValue (digitsValue 0 l.whole) l.fraction := List.foldl_append
  have power : (0 : ℚ) < 10 ^ l.fraction.length := by positivity
  have low' : (digitsValue 0 l.whole * 10 ^ l.fraction.length : ℚ) ≤
      digitsValue (digitsValue 0 l.whole) l.fraction := by exact_mod_cast low
  have high' : (digitsValue (digitsValue 0 l.whole) l.fraction + 1 : ℚ) ≤
      (digitsValue 0 l.whole + 1) * 10 ^ l.fraction.length := by exact_mod_cast high
  rw [magnitude, l.scale_eq_zero unscaled, zero_sub, zpow_neg, zpow_natCast, ← div_eq_mul_inv,
    joined]
  constructor
  · rwa [le_div_iff₀ power]
  · rw [div_le_iff₀ power, sub_mul, div_mul_cancel₀ _ power.ne']
    linarith

/-- There is no exponent, and there are at most fifteen digits. -/
def HasFewDigits : Prop := l.exponent = [] ∧ (l.whole ++ l.fraction).length ≤ 15

instance : Decidable l.HasFewDigits := inferInstanceAs (Decidable (_ ∧ _))

/-- The digits make a word of 64 bits, and only a small power of ten is left to divide by. -/
def IsShort : Prop := l.IsPlain ∧ l.wholeNumber.natAbs < 2 ^ 64 ∨ l.HasFewDigits

theorem digitsValue_whole_lt : digitsValue 0 l.whole < 10 ^ l.whole.length := by
  have bound := (Integer.digitsValue_bounds l.digits.digits 0).2
  rwa [zero_add, one_mul] at bound

theorem digitsValue_whole_lt_of_hasFewDigits (few : l.HasFewDigits) :
    digitsValue 0 l.whole < 10 ^ 15 := by
  have short := few.2
  rw [List.length_append] at short
  exact l.digitsValue_whole_lt.trans_le (Nat.pow_le_pow_right (by decide) (by omega))

theorem magnitude_nonneg : 0 ≤ l.magnitude := by
  unfold magnitude
  positivity

theorem abs_exact : |l.exact| = l.magnitude := by
  have sign : |(withSign l.negative 1 : ℚ)| = 1 := by cases l.negative <;> norm_num [withSign]
  rw [exact, abs_mul, sign, one_mul, abs_of_nonneg l.magnitude_nonneg]

theorem wholeNumber_natAbs : l.wholeNumber.natAbs = digitsValue 0 l.whole :=
  Binary64.natAbs_withSign _ _

/-- A plain literal is as great as its whole digits. -/
theorem magnitude_of_isPlain (plain : l.IsPlain) : l.magnitude = l.wholeNumber.natAbs := by
  rw [← abs_exact, l.exact_of_isPlain plain, ← Int.cast_abs, Int.abs_eq_natAbs, Int.cast_natCast]

/-- A literal with few digits is no greater than ten to the fifteenth. -/
theorem magnitude_le_of_hasFewDigits (few : l.HasFewDigits) : l.magnitude ≤ 10 ^ 15 := by
  have unit : (0 : ℚ) ≤ 1 / 10 ^ l.fraction.length := by positivity
  calc l.magnitude ≤ digitsValue 0 l.whole + 1 - 1 / 10 ^ l.fraction.length :=
        (l.magnitude_bounds few.1).2
    _ ≤ (digitsValue 0 l.whole + 1 : Nat) := by
        push_cast
        linarith
    _ ≤ 10 ^ 15 := by exact_mod_cast Nat.succ_le_of_lt (l.digitsValue_whole_lt_of_hasFewDigits few)

end Json.Literal

/-! ## Promises of decoders -/

namespace Json

/-- What a decoder promises that need not come closest. The digits of short literals are exact in
the words that it works with, so one rounding remains; all else is near what is written, or out of
range. -/
structure Decoder.Lawful (decoder : Decoder) : Prop where
  /-- Infinity is out of range. -/
  finite : ∀ {negative : Bool} {cs : List Char} {x : Float},
    decoder.decode? negative cs = some x → x.isFinite = true
  /-- A short literal is rounded once. -/
  short : ∀ {l : Literal}, l.IsShort →
    ∃ x, decoder.decode? l.negative l.unsigned = some x ∧ Rounds l.exact x
  /-- A literal that reaches a power of two is decoded to half of it at least. -/
  half : ∀ {l : Literal} {x : Float} {e : Nat}, decoder.decode? l.negative l.unsigned = some x →
    e ≤ 1023 → 2 ^ e ≤ |l.exact| → 2 ^ e ≤ 2 * |value x|

namespace Decoder

theorem Lawful.rounds {decoder : Decoder} (lawful : decoder.Lawful) {l : Literal}
    (short : l.IsShort) {x : Float} (decoded : decoder.decode? l.negative l.unsigned = some x) :
    Rounds l.exact x := by
  obtain ⟨y, decoded', rounds⟩ := lawful.short short
  obtain rfl : y = x := Option.some_inj.1 (decoded'.symm.trans decoded)
  exact rounds

/-! ### The closest decoder -/

theorem decode?_nearest_eq_some_iff {l : Literal} {x : Float} :
    nearest.decode? l.negative l.unsigned = some x ↔ l.nearest = x ∧ x.isFinite = true := by
  have read := Binary64.readUnsigned?_eq l.digits l.others l.scales
  have found : nearest.decode? l.negative l.unsigned = (some l.nearest).filter Float.isFinite :=
    congrArg (fun o => (o.map (Binary64.signed l.negative)).filter Float.isFinite) read
  rw [found, Option.filter_eq_some_iff, Option.some_inj]

theorem exists_decode?_nearest {l : Literal} {e : Nat} (le : |l.exact| ≤ 2 ^ e)
    (range : e ≤ 1023) :
    ∃ x, nearest.decode? l.negative l.unsigned = some x ∧ Rounds l.exact x :=
  ⟨l.nearest, decode?_nearest_eq_some_iff.2 ⟨rfl, (l.rounds_nearest.isWithin le range).finite⟩,
    l.rounds_nearest⟩

theorem lawful_nearest : nearest.Lawful where
  finite decoded := (Option.filter_eq_some_iff.1 decoded).2
  short {l} short := by
    refine exists_decode?_nearest (e := 64) ?_ (by decide)
    rw [l.abs_exact]
    rcases short with ⟨plain, small⟩ | few
    · rw [l.magnitude_of_isPlain plain]
      exact_mod_cast small.le
    · exact (l.magnitude_le_of_hasFewDigits few).trans (by norm_num)
  half {l x e} decoded range le := by
    obtain ⟨rfl, finite⟩ := decode?_nearest_eq_some_iff.1 decoded
    obtain ⟨y, finite', exact⟩ := Binary64.exists_value_two_pow range
    push_cast at exact
    have reached := l.rounds_nearest.le_magnitude finite' (exact ▸ le) finite
    rw [exact] at reached
    linarith [abs_nonneg (value l.nearest)]

end Decoder

end Json

end ItemScoring
