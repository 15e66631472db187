import Mathlib
import ItemScoring.Numeric.Precision
import ItemScoring.Operator.Comparison
import ItemScoring.Proofs.Decimal

/-!
# Rounding to decimal places

A number in the range of decimal arithmetic is rounded there, and the result is finite. Any other
number is multiplied by a power of ten, rounded to an integer and divided by the power again.
Rounding and dividing keep finite numbers finite, but the product may be too great, and then the
result is infinite. So a rounded number is finite exactly if that product is
(`Precision.isFinite_round_iff`), as it is for every number up to `2 ^ 929`.
-/

set_option autoImplicit false

namespace ItemScoring

open Binary64

namespace Precision

/-- The product of a number and the power of ten that brings the last kept place to the units is
finite. -/
def ScalesFinitely (p : Precision) (x : Float) : Prop := (x * power 10 p.figures).isFinite = true

section Places

variable {p : Precision} (places : p.mode = .decimalPlaces)
include places

theorem roundBinary_of_places (x : Float) : p.roundBinary x =
    roundHalfAway (x * power 10 p.figures) / power 10 p.figures := by
  rw [roundBinary, scaleExponent, places]

variable (few : p.figures ≤ 28) {x : Float}
include few

omit places in
/-- Numbers up to this magnitude can be scaled. -/
theorem scalesFinitely_of_isWithin (small : IsWithin 929 x) : p.ScalesFinitely x :=
  (small.mul (isWithin_power few).1 (by decide)).finite

/-- Rounding in binary arithmetic overflows only where the number is scaled. -/
theorem isFinite_roundBinary_iff : (p.roundBinary x).isFinite = true ↔ p.ScalesFinitely x := by
  obtain ⟨scale, one⟩ := isWithin_power few
  rw [roundBinary_of_places places]
  constructor
  · intro finite
    by_contra overflow
    have infinite : (x * power 10 p.figures).isFinite = false := Bool.eq_false_iff.2 overflow
    have kept : roundHalfAway (x * power 10 p.figures) = x * power 10 p.figures := by
      rw [roundHalfAway, decode?_of_not_isFinite infinite]
    rw [kept, not_isFinite_div infinite scale.finite] at finite
    cases finite
  · exact fun finite => isFinite_div (isFinite_roundHalfAway finite) scale.finite one

/-- A number that is rounded to decimal places is finite exactly if it can be scaled: either decimal
arithmetic rounds it, and then it is small enough, or binary arithmetic does. -/
theorem isFinite_round_iff {decimals : DecimalArithmetic} (lawful : decimals.Lawful)
    (finite : x.isFinite = true) :
    (p.round decimals x).isFinite = true ↔ p.ScalesFinitely x := by
  unfold round
  by_cases zero : (x == 0) = true
  · have nothing : value x = 0 := by
      rw [← value_zero]
      exact (beq_iff_value finite isFinite_zero).1 zero
    have small : IsWithin 0 x := ⟨finite, by rw [nothing, abs_zero]; positivity⟩
    rw [zero, Bool.or_true, if_pos rfl]
    exact iff_of_true finite (scalesFinitely_of_isWithin few (small.mono (by decide)))
  · rw [finite, Bool.eq_false_iff.2 zero]
    change ((roundDecimal? decimals p x).getD (p.roundBinary x)).isFinite = true ↔ _
    cases rounded : roundDecimal? decimals p x with
    | some y =>
        obtain ⟨d, found, rounded⟩ := Option.bind_eq_some_iff.1 rounded
        obtain ⟨f, -, converted⟩ := Option.bind_eq_some_iff.1 rounded
        have small : IsWithin 96 x := ⟨finite, lawful.inRange found⟩
        exact iff_of_true (lawful.finite converted)
          (scalesFinitely_of_isWithin few (small.mono (by decide)))
    | none => exact isFinite_roundBinary_iff places few

end Places

end Precision

/-! ## Equal numbers -/

theorem Binary64.isFinite_of_beq_zero {x : Float} (zero : (x == 0) = true) : x.isFinite = true := by
  rcases beq_zero_iff.1 zero with rfl | rfl
  · exact isFinite_zero
  · exact isFinite_neg isFinite_zero

/-- What is equal to a finite number is finite. -/
theorem Binary64.isFinite_eq_of_beq {x y : Float} (same : (x == y) = true) :
    x.isFinite = y.isFinite := by
  rcases eq_or_zero_of_beq same with rfl | ⟨first, second⟩
  · rfl
  · rw [isFinite_of_beq_zero first, isFinite_of_beq_zero second]

/-! ## Operators -/

namespace Rounding

open Comparison (equalRounded)

section Answers

variable (decimals : DecimalArithmetic) {i : Invocation} {p : Precision} {x y : Float}
  (asked : precision i.expression i.session = .ok p) (first : i.number? 0 = some x)
include asked first

theorem roundTo_of_number : roundTo decimals i = .ok (some (.float (p.round decimals x))) := by
  rw [roundTo, asked, first]
  rfl

theorem equalRounded_of_numbers (second : i.number? 1 = some y) :
    equalRounded decimals i = .ok (.boolean (p.round decimals x == p.round decimals y)) := by
  have answer : equalRounded decimals i =
      Comparison.compareNumbers (fun x y => p.round decimals x == p.round decimals y) i := by
    rw [equalRounded, asked]
    rfl
  rw [answer, Comparison.compareNumbers, first, second]

end Answers

/-- Rounding to decimal places turns a finite number into an infinite one exactly if scaling it
does. Only where that happens to both are numbers equal after rounding without being rounded to one
finite number. -/
theorem finite_places {decimals : DecimalArithmetic} (lawful : decimals.Lawful) {p : Precision}
    (places : p.mode = .decimalPlaces) (few : p.figures ≤ 28) {x y : Float}
    (first : x.isFinite = true) (second : y.isFinite = true) :
    ((p.round decimals x).isFinite = true ↔ p.ScalesFinitely x) ∧
    (|value x| ≤ 2 ^ 929 → p.ScalesFinitely x) ∧
    ∀ i : Invocation, precision i.expression i.session = .ok p → i.number? 0 = some x →
      (∃ z, roundTo decimals i = .ok (some (.float z)) ∧ (z.isFinite = true ↔ p.ScalesFinitely x)) ∧
      (i.number? 1 = some y → ∃ same, equalRounded decimals i = .ok (.boolean same) ∧
        (same = true → p.ScalesFinitely x ∨ p.ScalesFinitely y →
          (p.round decimals x).isFinite = true ∧ (p.round decimals y).isFinite = true ∧
            value (p.round decimals x) = value (p.round decimals y))) := by
  have finite := p.isFinite_round_iff places few lawful first
  have finite' := p.isFinite_round_iff places few lawful second
  refine ⟨finite, fun small => p.scalesFinitely_of_isWithin few ⟨first, small⟩,
    fun i asked operand => ⟨⟨_, roundTo_of_number decimals asked operand, finite⟩,
      fun operand' => ?_⟩⟩
  refine ⟨_, equalRounded_of_numbers decimals asked operand operand', fun same scales => ?_⟩
  have both := isFinite_eq_of_beq same
  rw [← finite, ← finite', both, or_self] at scales
  rw [both]
  exact ⟨scales, scales, (beq_iff_value (both.trans scales) scales).1 same⟩

/-- Two numbers that are rounded to 28 decimal places. -/
def toMostPlaces (x y : Float) : Invocation :=
  ⟨.leaf "roundTo" [("roundingMode", "decimalPlaces"), ("figures", "28")],
    [some (.float x), some (.float y)], .empty⟩

theorem precision_toMostPlaces (x y : Float) :
    precision (toMostPlaces x y).expression (toMostPlaces x y).session =
      .ok ⟨.decimalPlaces, 28⟩ := by
  rfl

/-- A number that has no decimal is scaled in binary arithmetic. -/
theorem round_of_exceeds {decimals : DecimalArithmetic} (lawful : decimals.Lawful) {p : Precision}
    {x : Float} (finite : x.isFinite = true) (great : 2 ^ 96 < |value x|) :
    p.round decimals x = p.roundBinary x := by
  have missing : decimals.ofFloat? x = none := by
    cases found : decimals.ofFloat? x with
    | none => rfl
    | some d => exact absurd (lawful.inRange found) (not_le.2 great)
  have notZero : (x == 0) = false := by
    refine Bool.eq_false_iff.2 fun zero => ?_
    rw [(beq_iff_value finite isFinite_zero).1 zero, value_zero, abs_zero] at great
    exact absurd great (by norm_num)
  have decimal : Precision.roundDecimal? decimals p x = none := by
    rw [Precision.roundDecimal?, missing]
    rfl
  rw [Precision.round, finite, notZero, decimal]
  rfl

theorem exceeds_of_decode? {x : Float} {d : Binary64.Dyadic} (decoded : decode? x = some d)
    (positive : 1 ≤ d.mantissa) (great : 97 ≤ d.exponent) : 2 ^ 96 < |value x| := by
  have sign : |(withSign d.negative 1 : ℚ)| = 1 := by cases d.negative <;> norm_num [withSign]
  rw [(value_of_decode? decoded).1, withSign_eq_mul, Int.cast_mul, Int.cast_natCast, mul_assoc,
    abs_mul, sign, one_mul, abs_of_nonneg (by positivity)]
  calc (2 : ℚ) ^ 96 < 1 * 2 ^ (97 : Int) := by norm_num
    _ ≤ d.mantissa * 2 ^ d.exponent := by
      have mantissa : (1 : ℚ) ≤ d.mantissa := by exact_mod_cast positive
      gcongr
      norm_num

/-- In every decimal arithmetic, great numbers become infinite, and so they are equal after
rounding. -/
theorem infinite_places :
    let i := toMostPlaces 1e300 2e300
    precision i.expression i.session = .ok ⟨.decimalPlaces, 28⟩ ∧
      i.number? 0 = some 1e300 ∧ i.number? 1 = some 2e300 ∧
      Float.isFinite 1e300 = true ∧ Float.isFinite 2e300 = true ∧
      (1e300 == (2e300 : Float)) = false ∧
      ∀ decimals : DecimalArithmetic, decimals.Lawful →
        roundTo decimals i = .ok (some (.float (1 / 0))) ∧
          equalRounded decimals i = .ok (.boolean true) := by
  intro i
  have asked : precision i.expression i.session = .ok ⟨.decimalPlaces, 28⟩ :=
    precision_toMostPlaces _ _
  have operands : i.number? 0 = some 1e300 ∧ i.number? 1 = some 2e300 := by decide +kernel
  have infinite : Precision.roundBinary ⟨.decimalPlaces, 28⟩ 1e300 = 1 / 0 ∧
      Precision.roundBinary ⟨.decimalPlaces, 28⟩ 2e300 = 1 / 0 := by decide +kernel
  have finite : Float.isFinite 1e300 = true ∧ Float.isFinite 2e300 = true := by decide +kernel
  have decoded : decode? 1e300 = some ⟨false, 6724873095247260, 944⟩ := by decide +kernel
  have decoded' : decode? 2e300 = some ⟨false, 6724873095247260, 945⟩ := by decide +kernel
  refine ⟨asked, operands.1, operands.2, finite.1, finite.2, by decide +kernel,
    fun decimals lawful => ?_⟩
  have first : Precision.round decimals ⟨.decimalPlaces, 28⟩ 1e300 = 1 / 0 :=
    (round_of_exceeds lawful finite.1 (exceeds_of_decode? decoded (by decide) (by decide))).trans
      infinite.1
  have second : Precision.round decimals ⟨.decimalPlaces, 28⟩ 2e300 = 1 / 0 :=
    (round_of_exceeds lawful finite.2 (exceeds_of_decode? decoded' (by decide) (by decide))).trans
      infinite.2
  constructor
  · rw [roundTo_of_number decimals asked operands.1, first]
  · rw [equalRounded_of_numbers decimals asked operands.1 operands.2, first, second]
    rfl

/-- Numbers beyond the range of decimal arithmetic stay finite. -/
theorem finite_beyond_decimals :
    let i := toMostPlaces 1e35 2e35
    precision i.expression i.session = .ok ⟨.decimalPlaces, 28⟩ ∧
      (∃ z, roundTo .builtIn i = .ok (some (.float z)) ∧ z.isFinite = true) ∧
      ∃ same, equalRounded .builtIn i = .ok (.boolean same) ∧
        (same = true → (Precision.round .builtIn ⟨.decimalPlaces, 28⟩ 1e35).isFinite = true) := by
  intro i
  have asked : precision i.expression i.session = .ok ⟨.decimalPlaces, 28⟩ :=
    precision_toMostPlaces _ _
  have operands : i.number? 0 = some 1e35 ∧ i.number? 1 = some 2e35 := by decide +kernel
  have scales : Precision.ScalesFinitely ⟨.decimalPlaces, 28⟩ 1e35 := by
    unfold Precision.ScalesFinitely
    decide +kernel
  obtain ⟨⟨z, answer, finite⟩, compared⟩ := (finite_places (x := 1e35) (y := 2e35)
    DecimalArithmetic.lawful_builtIn rfl le_rfl (by decide +kernel)
    (by decide +kernel)).2.2 i asked operands.1
  obtain ⟨same, answer', rounded⟩ := compared operands.2
  exact ⟨asked, ⟨z, answer, finite.2 scales⟩, same, answer',
    fun equal => (rounded equal (.inl scales)).1⟩

end Rounding

end ItemScoring
