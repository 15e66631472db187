import Mathlib
import ItemScoring.Proofs.Comparison
import ItemScoring.Proofs.Binary64.Operations

/-!
# Equality within a tolerance

Within a tolerance a number is equal to those in an interval around it. Whatever is rounded, the
interval of an absolute tolerance contains the number itself. A relative tolerance multiplies the
number by factors that are not greater and not less than one: that gives an interval around a number
that is not negative, but around a negative number the bounds change places, and it is not even
equal to itself.
-/

set_option autoImplicit false

namespace ItemScoring

open Binary64

namespace Comparison

/-! ## Intervals -/

/-- A tolerance is a finite number that is not negative. -/
structure IsTolerance (t : Float) : Prop where
  finite : t.isFinite = true
  nonneg : 0 ≤ t

theorem IsTolerance.value_nonneg {t : Float} (h : IsTolerance t) : 0 ≤ value t := by
  rw [← value_zero]
  exact (le_iff_value isFinite_zero h.finite).1 h.nonneg

/-- A percentage is a tolerance again, and it may be increased by one. -/
theorem IsTolerance.hundredth {t : Float} (h : IsTolerance t) :
    IsTolerance (t / 100) ∧ ∃ y : Float, y.isFinite = true ∧ 1 + value (t / 100) ≤ value y := by
  have hundred : (100 : Float).isFinite = true := isFinite_ofNat (n := 100) (by norm_num)
  have value_hundred : value 100 = 100 := by
    exact_mod_cast value_ofNat (n := 100) (by norm_num)
  have rounds := rounds_div h.finite hundred (by rw [value_hundred]; norm_num)
  rw [value_hundred] at rounds
  have nonneg := h.value_nonneg
  have limit := (abs_lt.1 (abs_value_lt t)).2
  obtain ⟨y, finite, half⟩ := exists_value_two_zpow (e := 1022) (by decide) (by decide)
  obtain ⟨z, finite', full⟩ := exists_value_two_zpow (e := 1022 + 1) (by decide) (by decide)
  have one : 1 ≤ value y := half ▸ one_le_zpow₀ one_le_two (by decide)
  have double : value z = 2 * value y := by rw [full, two_zpow_succ, half]
  rw [show (1024 : Int) = 1022 + 1 + 1 from rfl, two_zpow_succ, ← full] at limit
  have low : 0 ≤ t / 100 := rounds.ge isFinite_zero (by rw [value_zero]; positivity)
  have high : t / 100 ≤ y := rounds.le finite (by linarith only [limit, one, double])
  have between := isFinite_of_between isFinite_zero finite low high
  have bound := (le_iff_value between finite).1 high
  exact ⟨⟨between, low⟩, z, finite', by linarith only [bound, one, double]⟩

section Percentages

variable {t : Float} (h : IsTolerance t)
include h

/-- The factor below is a finite number, and it is not greater than one. -/
theorem IsTolerance.factor_below :
    (1 - t / 100).isFinite = true ∧ value (1 - t / 100) ≤ 1 := by
  obtain ⟨hundredth, y, finite, bound⟩ := h.hundredth
  have nonneg := hundredth.value_nonneg
  have rounds := rounds_sub isFinite_one hundredth.finite
  rw [value_one] at rounds
  have high : 1 - t / 100 ≤ 1 := rounds.le isFinite_one (by rw [value_one]; linarith)
  have low : -y ≤ 1 - t / 100 := rounds.ge (isFinite_neg finite) (by
    rw [value_neg finite]
    linarith)
  have between := isFinite_of_between (isFinite_neg finite) isFinite_one low high
  exact ⟨between, value_one ▸ (le_iff_value between isFinite_one).1 high⟩

/-- The factor above is a finite number, and it is not less than one. -/
theorem IsTolerance.factor_above :
    (1 + t / 100).isFinite = true ∧ 1 ≤ value (1 + t / 100) := by
  obtain ⟨hundredth, y, finite, bound⟩ := h.hundredth
  have nonneg := hundredth.value_nonneg
  have rounds := rounds_add isFinite_one hundredth.finite
  rw [value_one] at rounds
  have low : 1 ≤ 1 + t / 100 := rounds.ge isFinite_one (by rw [value_one]; linarith)
  have high : 1 + t / 100 ≤ y := rounds.le finite bound
  have between := isFinite_of_between isFinite_one finite low high
  exact ⟨between, value_one ▸ (le_iff_value isFinite_one between).1 low⟩

end Percentages

section Intervals

variable {x y below above : Float} (first : x.isFinite = true) (second : y.isFinite = true)
  (same : value x = value y) (hb : IsTolerance below) (ha : IsTolerance above)
include first second same hb ha

/-- An absolute tolerance allows an equal number. -/
theorem within_absolute :
    let bounds := toleranceInterval .absolute x below above
    bounds.1 ≤ y ∧ y ≤ bounds.2 := by
  have hb' := hb.value_nonneg
  have ha' := ha.value_nonneg
  exact ⟨(rounds_sub first hb.finite).le second (by linarith),
    (rounds_add first ha.finite).ge second (by linarith)⟩

/-- A relative tolerance allows an equal number that is not negative. Around a negative number the
bounds have changed places: they allow it only if rounding makes both of them that number. -/
theorem within_relative :
    let bounds := toleranceInterval .relative x below above
    bounds.1 ≤ y ∧ y ≤ bounds.2 ↔ 0 ≤ x ∨ (bounds.1 == y) = true ∧ (y == bounds.2) = true := by
  intro bounds
  obtain ⟨finite_below, le_one⟩ := hb.factor_below
  obtain ⟨finite_above, one_le⟩ := ha.factor_above
  have lower := rounds_mul first finite_below
  have upper := rounds_mul first finite_above
  rcases le_or_gt 0 (value x) with nonneg | negative
  · have positive : 0 ≤ x := (le_iff_value isFinite_zero first).2 (value_zero.symm ▸ nonneg)
    refine iff_of_true ⟨lower.le second ?_, upper.ge second ?_⟩ (.inl positive)
    · exact same ▸ mul_le_of_le_one_right nonneg le_one
    · exact same ▸ le_mul_of_one_le_right nonneg one_le
  · have notPositive : ¬ 0 ≤ x := by
      rw [le_iff_value isFinite_zero first, value_zero]
      exact not_le.2 negative
    -- A factor below one moves a negative number up, and a factor above one moves it down.
    have low := lower.ge second (by nlinarith)
    have high := upper.le second (by nlinarith)
    rw [or_iff_right notPositive]
    constructor
    · rintro ⟨le, ge⟩
      exact ⟨(beq_of_le_of_ge second le low).1, (beq_of_le_of_ge second high ge).2⟩
    · rintro ⟨le, ge⟩
      exact ⟨le_of_beq le, le_of_beq ge⟩

end Intervals

/-! ## Operands -/

/-- The number that an operand is seen as. -/
theorem number?_of_isNumber {i : Invocation} {index : Nat} {s : Scalar} {x : Float}
    (operand : i.scalar? index = some s) (numeric : s.isNumber = true) (read : s.number? = some x) :
    i.number? index = some x ∧ x.isFinite = true := by
  have finite : x.isFinite = true := by
    cases s with
    | integer n =>
        obtain rfl : ofInteger n.toInt = x := Option.some_inj.1 read
        exact isFinite_ofInteger (natAbs_toInt_lt n)
    | float z =>
        obtain rfl : z.toFloat = x := Option.some_inj.1 read
        exact numeric
    | _ => cases numeric
  have number : x.isNaN = false := by
    change x.toModel.unpack.isNaN = false
    have canonical := isCanonical_unpack finite
    generalize x.toModel.unpack = u at canonical
    cases canonical <;> rfl
  refine ⟨?_, finite⟩
  rw [Invocation.number?, operand, Option.bind_some, read, Option.filter_some, number]
  rfl

section Answers

variable {i : Invocation} {x y : Float} (first : i.number? 0 = some x)
  (second : i.number? 1 = some y)
include first second

theorem equal_of_exact (mode : toleranceMode i.expression = .ok .exact) :
    equal i = .ok (.boolean (x == y)) := by
  rw [equal, mode, first, second]
  rfl

/-- Within a tolerance, equality asks whether the second number is in an interval around the first.
-/
theorem equal_of_within {mode : ToleranceMode} {below above : Float}
    (tolerant : toleranceMode i.expression = .ok mode) (inexact : mode ≠ .exact)
    (listed : tolerances i = .ok (below, above))
    (includeLower : Attribute.boolean i.expression "includeLowerBound" true = .ok true)
    (includeUpper : Attribute.boolean i.expression "includeUpperBound" true = .ok true) :
    let bounds := toleranceInterval mode x below above
    equal i = .ok (.boolean (bounds.1 ≤ y ∧ y ≤ bounds.2)) := by
  have answer : equal i = equalWithin mode i x y := by
    rw [equal, tolerant, first, second]
    exact if_neg inexact
  rw [answer, equalWithin, listed, includeLower, includeUpper]
  change Except.ok (Operand.boolean (decide _ && decide _)) = _
  rw [← Bool.decide_and]
  exact boolean_inj.2 Iff.rfl

end Answers

/-- Numbers that are equal are equal within each tolerance that includes its bounds, with one
exception: a relative tolerance never allows a negative number, unless it is so small that rounding
makes both bounds that number. -/
theorem equal_of_beq (i : Invocation) {s t : Scalar} {x y : Float}
    (first : i.scalar? 0 = some s) (second : i.scalar? 1 = some t)
    (firstNumeric : s.isNumber = true) (secondNumeric : t.isNumber = true)
    (firstRead : s.number? = some x) (secondRead : t.number? = some y) (same : (x == y) = true) :
    (toleranceMode i.expression = .ok .exact → equal i = .ok (.boolean true)) ∧
    ∀ below above, tolerances i = .ok (below, above) → IsTolerance below → IsTolerance above →
      Attribute.boolean i.expression "includeLowerBound" true = .ok true →
      Attribute.boolean i.expression "includeUpperBound" true = .ok true →
      (toleranceMode i.expression = .ok .absolute → equal i = .ok (.boolean true)) ∧
      (toleranceMode i.expression = .ok .relative →
        let bounds := toleranceInterval .relative x below above
        equal i = .ok (.boolean (0 ≤ x ∨ (bounds.1 == y) = true ∧ (y == bounds.2) = true))) := by
  obtain ⟨operand, finite⟩ := number?_of_isNumber first firstNumeric firstRead
  obtain ⟨operand', finite'⟩ := number?_of_isNumber second secondNumeric secondRead
  have values : value x = value y := (beq_iff_value finite finite').1 same
  refine ⟨fun exact => ?_, fun below above listed hb ha includeLower includeUpper => ⟨?_, ?_⟩⟩
  · rw [equal_of_exact operand operand' exact, same]
  · intro absolute
    rw [equal_of_within operand operand' absolute (by decide) listed includeLower includeUpper,
      decide_eq_true (within_absolute finite finite' values hb ha)]
  · intro relative
    rw [equal_of_within operand operand' relative (by decide) listed includeLower includeUpper]
    exact boolean_inj.2 (within_relative finite finite' values hb ha)

/-- Two integers that are compared within ten percent. -/
def withinTenPercent (m n : Int64) : Invocation :=
  ⟨.leaf "equal" [("toleranceMode", "relative"), ("tolerance", "10")],
    [some (.integer m), some (.integer n)], .empty⟩

theorem tolerances_withinTenPercent (m n : Int64) :
    tolerances (withinTenPercent m n) = .ok (10, 10) := by
  have there : (withinTenPercent m n).expression.attribute? "tolerance" = some "10" := rfl
  have words : Text.words "10" = ["10"] := by decide +kernel
  have literal : Attribute.reference? "10" = none := by decide +kernel
  have read : Scalar.readFloat? "10" = some 10 := by decide +kernel
  rw [tolerances, Attribute.floatList, there]
  dsimp only
  rw [words, Attribute.listItems, Attribute.listItem, literal]
  dsimp only
  rw [read]
  rfl

theorem isTolerance_ten : IsTolerance 10 := ⟨by decide +kernel, by decide +kernel⟩

/-- Minus ten is not equal to itself within ten percent. -/
theorem not_equal_itself :
    let i := withinTenPercent (-10) (-10)
    toleranceMode i.expression = .ok .relative ∧
      tolerances i = .ok (10, 10) ∧ IsTolerance 10 ∧
      Attribute.boolean i.expression "includeLowerBound" true = .ok true ∧
      Attribute.boolean i.expression "includeUpperBound" true = .ok true ∧
      equal i = .ok (.boolean false) := by
  intro i
  have relative : toleranceMode i.expression = .ok .relative := rfl
  have listed : tolerances i = .ok (10, 10) := tolerances_withinTenPercent _ _
  have operand : i.number? 0 = some (-10) ∧ i.number? 1 = some (-10) := by decide +kernel
  have outside : ¬ ((toleranceInterval .relative (-10) 10 10).1 ≤ -10 ∧
      -10 ≤ (toleranceInterval .relative (-10) 10 10).2) := by decide +kernel
  refine ⟨relative, listed, isTolerance_ten, rfl, rfl, ?_⟩
  rw [equal_of_within operand.1 operand.2 relative (by decide) listed rfl rfl,
    decide_eq_false outside]

/-- Ten is equal to itself within ten percent. -/
theorem equal_itself :
    let i := withinTenPercent 10 10
    toleranceMode i.expression = .ok .relative ∧ tolerances i = .ok (10, 10) ∧
      equal i = .ok (.boolean true) := by
  intro i
  have relative : toleranceMode i.expression = .ok .relative := rfl
  have listed : tolerances i = .ok (10, 10) := tolerances_withinTenPercent _ _
  have nonneg : 0 ≤ ofInteger (Int64.toInt 10) := by decide +kernel
  have answer := ((equal_of_beq i (s := .integer 10) (t := .integer 10) rfl rfl rfl rfl rfl rfl
    (by decide +kernel)).2 10 10 listed isTolerance_ten isTolerance_ten rfl rfl).2 relative
  dsimp only at answer
  rw [decide_eq_true (Or.inl nonneg)] at answer
  exact ⟨relative, listed, answer⟩

end Comparison

end ItemScoring
