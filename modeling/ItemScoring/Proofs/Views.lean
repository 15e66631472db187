import ItemScoring.Proofs.Invocation
import ItemScoring.Proofs.References
import ItemScoring.Registry

/-!
# What operators see

Most operators see their operands through a few views only: the single scalars, whether something is
NULL, the finite numbers and the truth values. Of the session they see the scalars that attributes
refer to. Invocations that agree in these views are alike, and an operator that uses no other view
answers them alike. This is the common ground of all comparisons of two evaluations.
-/

set_option autoImplicit false

namespace ItemScoring

/-! ## Shapes of operands -/

namespace Operand

/-- The value of an operand that is not NULL. -/
def filled (o : Operand) : Option Value := Option.filter (fun v => !v.isNull) o

/-- The cardinality and the base type of an operand that is not NULL. -/
def shape? (o : Operand) : Option (Cardinality × Option BaseType) :=
  o.filled.map fun v => (v.cardinality, v.baseType)

theorem filled_of_isNull {o : Operand} (null : o.isNull = true) : o.filled = none := by
  cases o with
  | none => rfl
  | some v =>
      have null : v.isNull = true := null
      simp [filled, Option.filter, null]

theorem filled_of_not_isNull {o : Operand} (there : o.isNull = false) : o.filled = o := by
  cases o with
  | none => rfl
  | some v =>
      have there : v.isNull = false := there
      simp [filled, Option.filter, there]

theorem shape?_of_isNull {o : Operand} (null : o.isNull = true) : o.shape? = none := by
  rw [shape?, filled_of_isNull null, Option.map_none]

theorem shape?_of_not_isNull {v : Value} (there : v.isNull = false) :
    shape? (some v) = some (v.cardinality, v.baseType) := by
  rw [shape?, filled_of_not_isNull (o := some v) there, Option.map_some]

theorem isNone_shape? (o : Operand) : o.shape?.isNone = o.isNull := by
  cases null : o.isNull with
  | true => rw [shape?_of_isNull null, Option.isNone_none]
  | false =>
      cases o with
      | none => cases null
      | some v => rw [shape?_of_not_isNull null, Option.isNone_some]

theorem anyNull_eq (os : List Operand) : anyNull os = (os.map shape?).any Option.isNone := by
  rw [anyNull, List.any_map]
  congr 1
  funext o
  exact o.isNone_shape?.symm

end Operand

namespace Contract

variable (contract : Contract)

theorem checkOperand_eq (position : Nat) (o : Operand) :
    contract.checkOperand position o = match o.shape? with
      | none => .ok ()
      | some (c, b) =>
        if !contract.cardinalities.contains c then
          .error (.cardinality position c contract.cardinalities)
        else
          match b with
          | none => .ok ()
          | some b =>
            if contract.baseTypes.contains b then .ok ()
            else .error (.baseType position b contract.baseTypes) := by
  cases o with
  | none => rfl
  | some v =>
      cases null : v.isNull with
      | true =>
          rw [Operand.shape?_of_isNull (o := some v) null]
          exact if_pos null
      | false =>
          have there : ¬v.isNull = true := by simp [null]
          rw [Operand.shape?_of_not_isNull null]
          exact if_neg there

theorem checkOperands_congr (position : Nat) {os os' : List Operand}
    (h : os.map Operand.shape? = os'.map Operand.shape?) :
    contract.checkOperands position os = contract.checkOperands position os' := by
  induction os generalizing os' position with
  | nil =>
      obtain rfl := List.map_eq_nil_iff.1 h.symm
      rfl
  | cons o rest ih =>
      obtain ⟨o', rest', rfl, shape, shapes⟩ := List.map_eq_cons_iff.1 h.symm
      rw [checkOperands, checkOperands, checkOperand_eq, checkOperand_eq, shape,
        ih (position + 1) shapes.symm]

/-- A contract sees the number and the shapes of the operands. -/
theorem validate_congr (operator : String) {os os' : List Operand}
    (h : os.map Operand.shape? = os'.map Operand.shape?) :
    contract.validate operator os = contract.validate operator os' := by
  have count : os.length = os'.length := by simpa using congrArg List.length h
  rw [validate, validate, count, checkOperands_congr contract 1 h]

end Contract

namespace Invocation

theorem sharedBaseType_cons (i : Invocation) (found : Option BaseType) (o : Operand)
    (rest : List Operand) :
    i.sharedBaseType found (o :: rest) = match o.shape? with
      | none => i.sharedBaseType found rest
      | some (_, b) =>
        match found, b with
        | none, b => i.sharedBaseType b rest
        | some a, none => i.sharedBaseType (some a) rest
        | some a, some b =>
          if a = b then i.sharedBaseType (some a) rest else i.refuse (.mixedBaseTypes a b) := by
  cases o with
  | none => rfl
  | some v =>
      cases null : v.isNull with
      | true =>
          rw [Operand.shape?_of_isNull (o := some v) null]
          exact if_pos null
      | false =>
          have there : ¬v.isNull = true := by simp [null]
          rw [Operand.shape?_of_not_isNull null]
          exact if_neg there

/-- The base type that operands share is found from their shapes. -/
theorem sharedBaseType_congr {i j : Invocation} (tag : i.tag = j.tag) (found : Option BaseType)
    {os os' : List Operand} (h : os.map Operand.shape? = os'.map Operand.shape?) :
    i.sharedBaseType found os = j.sharedBaseType found os' := by
  induction os generalizing os' found with
  | nil =>
      obtain rfl := List.map_eq_nil_iff.1 h.symm
      rfl
  | cons o rest ih =>
      obtain ⟨o', rest', rfl, shape, shapes⟩ := List.map_eq_cons_iff.1 h.symm
      have others := fun found => ih found shapes.symm
      rw [sharedBaseType_cons, sharedBaseType_cons, shape]
      simp only [others, refuse, tag]

end Invocation

/-! ## Invocations that are alike -/

/-- Invocations that agree in the views that most operators use. -/
structure Invocation.Alike (i j : Invocation) : Prop where
  expression : i.expression = j.expression
  references : i.expression.SameReferences i.session j.session
  shapes : i.operands.map Operand.shape? = j.operands.map Operand.shape?
  scalar? : ∀ index, i.scalar? index = j.scalar? index
  quantities : Quantity.ofOperands i.operands = Quantity.ofOperands j.operands
  truthValues : Logic.truthValues i = Logic.truthValues j

namespace Invocation.Alike

variable {i j : Invocation} (h : i.Alike j)
include h

theorem tag : i.tag = j.tag := congrArg Expression.tag h.expression

theorem number? (index : Nat) : i.number? index = j.number? index := by
  unfold Invocation.number?
  rw [h.scalar?]

theorem anyNull : i.anyNull = j.anyNull := by
  unfold Invocation.anyNull
  rw [Operand.anyNull_eq, Operand.anyNull_eq, h.shapes]

theorem commonBaseType : i.commonBaseType = j.commonBaseType :=
  sharedBaseType_congr h.tag none h.shapes

theorem requiredInteger (name : String) : i.requiredInteger name = j.requiredInteger name := by
  unfold Invocation.requiredInteger
  rw [Attribute.integer_eq h.references, h.expression]

end Invocation.Alike

/-! ## Operators that use no other view -/

section Views

variable {i j : Invocation} (h : i.Alike j)
include h

theorem Logic.and_alike : Logic.and i = Logic.and j := by
  unfold Logic.and
  rw [h.truthValues]

theorem Logic.or_alike : Logic.or i = Logic.or j := by
  unfold Logic.or
  rw [h.truthValues]

theorem Logic.not_alike : Logic.not i = Logic.not j := by
  unfold Logic.not
  rw [h.scalar?]

theorem Logic.anyN_alike : Logic.anyN i = Logic.anyN j := by
  unfold Logic.anyN
  rw [h.requiredInteger, h.requiredInteger, h.truthValues]

theorem Comparison.compareNumbers_alike (test : Float → Float → Bool) :
    Comparison.compareNumbers test i = Comparison.compareNumbers test j := by
  unfold Comparison.compareNumbers
  rw [h.number?, h.number?]

theorem Comparison.compareDurations_alike (test : Duration → Duration → Bool) :
    Comparison.compareDurations test i = Comparison.compareDurations test j := by
  unfold Comparison.compareDurations
  rw [h.scalar?, h.scalar?]

theorem Comparison.equalWithin_alike (mode : Comparison.ToleranceMode) (x y : Float) :
    Comparison.equalWithin mode i x y = Comparison.equalWithin mode j x y := by
  unfold Comparison.equalWithin Comparison.tolerances
  rw [Attribute.floatList_eq h.references, h.expression]

theorem Comparison.equal_alike : Comparison.equal i = Comparison.equal j := by
  unfold Comparison.equal
  simp only [h.expression, h.number?, Comparison.equalWithin_alike h]

theorem Rounding.precision_alike :
    Rounding.precision i.expression i.session = Rounding.precision j.expression j.session := by
  unfold Rounding.precision
  rw [Attribute.integer_eq h.references, h.expression]

theorem Comparison.equalRounded_alike (decimals : DecimalArithmetic) :
    Comparison.equalRounded decimals i = Comparison.equalRounded decimals j := by
  unfold Comparison.equalRounded
  rw [Rounding.precision_alike h]
  simp only [Comparison.compareNumbers_alike h]

theorem Arithmetic.numbers?_alike : Arithmetic.numbers? i = Arithmetic.numbers? j := by
  unfold Arithmetic.numbers?
  rw [h.anyNull, h.quantities]

theorem Arithmetic.onPair_alike (result : Float → Float → Operand) :
    Arithmetic.onPair result i = Arithmetic.onPair result j := by
  unfold Arithmetic.onPair
  rw [Arithmetic.numbers?_alike h]

theorem Arithmetic.onIntegerPair_alike (result : Int64 → Int64 → Option Int64) :
    Arithmetic.onIntegerPair result i = Arithmetic.onIntegerPair result j := by
  unfold Arithmetic.onIntegerPair
  simp only [h.scalar?, Invocation.overflow, h.tag]

theorem Arithmetic.integerToFloat_alike :
    Arithmetic.integerToFloat i = Arithmetic.integerToFloat j := by
  unfold Arithmetic.integerToFloat
  rw [h.scalar?]

theorem Arithmetic.onMagnitudes_alike (result : List Nat → Option Nat) :
    Arithmetic.onMagnitudes result i = Arithmetic.onMagnitudes result j := by
  unfold Arithmetic.onMagnitudes
  simp only [Arithmetic.numbers?_alike h, Invocation.overflow, h.tag]

theorem Rounding.toIntegral_alike (direction : Binary64.Direction) :
    Rounding.toIntegral direction i = Rounding.toIntegral direction j := by
  unfold Rounding.toIntegral Rounding.integral
  simp only [h.scalar?, Invocation.overflow, h.tag]

theorem Rounding.roundTo_alike (decimals : DecimalArithmetic) :
    Rounding.roundTo decimals i = Rounding.roundTo decimals j := by
  unfold Rounding.roundTo
  rw [Rounding.precision_alike h, h.number?]

theorem Function.mathOperator_alike : Function.mathOperator i = Function.mathOperator j := by
  unfold Function.mathOperator Function.atan2 Function.absolute
  simp only [h.expression, h.number?, h.scalar?]

theorem Statistics.statsOperator_alike :
    Statistics.statsOperator i = Statistics.statsOperator j := by
  unfold Statistics.statsOperator
  rw [h.expression, h.anyNull, h.quantities]

theorem TextTest.testTexts_alike (caseSensitive : Bool)
    (test : List Char → List Char → Bool) :
    TextTest.testTexts caseSensitive test i = TextTest.testTexts caseSensitive test j := by
  unfold TextTest.testTexts TextTest.text?
  rw [h.scalar?, h.scalar?]

theorem TextTest.stringMatch_alike : TextTest.stringMatch i = TextTest.stringMatch j := by
  unfold TextTest.stringMatch
  simp only [h.expression, TextTest.testTexts_alike h]

theorem TextTest.substring_alike : TextTest.substring i = TextTest.substring j := by
  unfold TextTest.substring
  simp only [h.expression, TextTest.testTexts_alike h]

theorem TextTest.patternMatch_alike (language : PatternLanguage) :
    TextTest.patternMatch language i = TextTest.patternMatch language j := by
  unfold TextTest.patternMatch TextTest.text?
  rw [Attribute.string_eq h.references, h.expression, h.scalar?]

end Views

/-! ## Operators whose results are integers when all operands are declared so -/

section Types

variable {i j : Invocation}
  (types : Operand.allInteger i.operands = Operand.allInteger j.operands)
include types

theorem Arithmetic.resultType_alike : Arithmetic.resultType i = Arithmetic.resultType j := by
  unfold Arithmetic.resultType
  rw [types]

theorem Arithmetic.integerOperands?_alike (qs : List Quantity) :
    Arithmetic.integerOperands? i qs = Arithmetic.integerOperands? j qs := by
  unfold Arithmetic.integerOperands?
  rw [Arithmetic.resultType_alike types]

variable (h : i.Alike j)
include h

theorem Arithmetic.combine_alike (onIntegers : Int64 → Int64 → Option Int64)
    (onFloats : Float → Float → Float) :
    Arithmetic.combine onIntegers onFloats i = Arithmetic.combine onIntegers onFloats j := by
  unfold Arithmetic.combine
  simp only [Arithmetic.numbers?_alike h, Arithmetic.resultType_alike types,
    Arithmetic.integerOperands?_alike types, Invocation.overflow, h.tag]

theorem Arithmetic.subtract_alike : Arithmetic.subtract i = Arithmetic.subtract j := by
  unfold Arithmetic.subtract
  simp only [Arithmetic.numbers?_alike h, Arithmetic.resultType_alike types,
    Arithmetic.integerOperands?_alike types, Invocation.overflow, h.tag]

theorem Arithmetic.extreme_alike (better : Int64 → Int64 → Bool) (pick : Float → Float → Float)
    (bound : Float) :
    Arithmetic.extreme better pick bound i = Arithmetic.extreme better pick bound j := by
  unfold Arithmetic.extreme
  simp only [Arithmetic.numbers?_alike h, Arithmetic.resultType_alike types,
    Arithmetic.integerOperands?_alike types]

end Types

end ItemScoring
