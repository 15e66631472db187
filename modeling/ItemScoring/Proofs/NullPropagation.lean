import ItemScoring.Proofs.Invocation
import ItemScoring.Proofs.Registry

/-!
# NULL operands

Outside a fixed list of exceptions, an operator that is given a NULL operand yields NULL or reports
an error. The operators with one or two operands look at each of them through a view that does not
see NULL, and the others ask for NULL first. Functions of one number are the one case left over:
they accept a second operand and never look at it, so a NULL there goes unnoticed, and what comes
out then is the answer for the first operand alone.
-/

set_option autoImplicit false

namespace ItemScoring

/-- Work that yields NULL, unless it reports an error. -/
def Result.IsNull (r : Result Operand) : Prop := r.Ensures fun o => o.isNull = true

@[simp] theorem Operand.isNull_null (b : BaseType) : (Operand.null b).isNull = true := rfl

@[simp] theorem Operand.isNull_some_null (c : Cardinality) (b : Option BaseType) :
    Operand.isNull (some (.null c b)) = true := rfl

/-! ## Operators that look at one operand -/

section First

variable {i : Invocation} (unseen : i.operand? 0 = none)
include unseen

theorem Logic.not_isNull : (Logic.not i).IsNull := by
  simp [Result.IsNull, Logic.not, i.scalar?_of_operand? unseen]

theorem Arithmetic.integerToFloat_isNull : (Arithmetic.integerToFloat i).IsNull := by
  simp [Result.IsNull, Arithmetic.integerToFloat, i.scalar?_of_operand? unseen]

theorem Rounding.toIntegral_isNull (direction : Binary64.Direction) :
    (Rounding.toIntegral direction i).IsNull := by
  simp [Result.IsNull, Rounding.toIntegral, i.scalar?_of_operand? unseen]

theorem Rounding.roundTo_isNull (decimals : DecimalArithmetic) :
    (Rounding.roundTo decimals i).IsNull := by
  refine Result.Ensures.bind fun precision _ => ?_
  simp [i.number?_of_operand? unseen]

theorem Container.index_isNull : (Container.index i).IsNull := by
  refine Result.Ensures.bind fun n _ => ?_
  simp [unseen]

theorem Container.fieldValue_isNull : (Container.fieldValue i).IsNull := by
  refine Result.Ensures.bind fun name _ => ?_
  simp [unseen]

theorem Container.random_isNull (chance : Chance) : (Container.random chance i).IsNull := by
  simp [Result.IsNull, Container.random, unseen]

theorem TextTest.patternMatch_isNull (language : PatternLanguage) :
    (TextTest.patternMatch language i).IsNull := by
  refine Result.Ensures.bind fun read _ => Result.Ensures.bind fun pattern _ => ?_
  have : TextTest.text? i 0 = none := by simp [TextTest.text?, i.scalar?_of_operand? unseen]
  split
  · exact Result.ensures_error
  · simp [this]

theorem Area.inside_isNull : (Area.inside i).IsNull := by
  refine Result.Ensures.bind fun shape _ => ?_
  simp [unseen]

theorem Function.mathOperator_isNull : (Function.mathOperator i).IsNull := by
  refine Result.Ensures.bind fun name _ => ?_
  have scalar : i.scalar? 0 = none := i.scalar?_of_operand? unseen
  have number : i.number? 0 = none := i.number?_of_operand? unseen
  split
  · simp [Function.atan2, number]
  split
  · simp [Function.absolute, scalar, number]
  split
  · simp [number]
  split
  · simp [number]
  · exact Result.ensures_error

end First

/-! ## Operators that look at two operands -/

section Either

variable {i : Invocation} (unseen : i.operand? 0 = none ∨ i.operand? 1 = none)
include unseen

theorem Comparison.compareNumbers_isNull (test : Float → Float → Bool) :
    (Comparison.compareNumbers test i).IsNull := by
  rcases unseen with h | h <;>
    simp [Result.IsNull, Comparison.compareNumbers, i.number?_of_operand? h]

theorem Comparison.compareDurations_isNull (test : Duration → Duration → Bool) :
    (Comparison.compareDurations test i).IsNull := by
  rcases unseen with h | h <;>
    simp [Result.IsNull, Comparison.compareDurations, i.scalar?_of_operand? h]

theorem Comparison.equal_isNull : (Comparison.equal i).IsNull := by
  refine Result.Ensures.bind fun mode _ => ?_
  rcases unseen with h | h <;> simp [i.number?_of_operand? h]

theorem Comparison.equalRounded_isNull (decimals : DecimalArithmetic) :
    (Comparison.equalRounded decimals i).IsNull :=
  Result.Ensures.bind fun _ _ => Comparison.compareNumbers_isNull unseen _

theorem Comparison.matchValues_isNull : (Comparison.matchValues i).IsNull := by
  rcases unseen with h | h <;> simp [Result.IsNull, Comparison.matchValues, h]

theorem Arithmetic.onIntegerPair_isNull (result : Int64 → Int64 → Option Int64) :
    (Arithmetic.onIntegerPair result i).IsNull := by
  rcases unseen with h | h <;>
    simp [Result.IsNull, Arithmetic.onIntegerPair, i.scalar?_of_operand? h]

theorem Container.member_isNull : (Container.member i).IsNull := by
  refine Result.Ensures.bind fun b _ => ?_
  rcases unseen with h | h
  · simp [i.scalar?_of_operand? h]
  · simp [h]

theorem Container.contains_isNull : (Container.contains i).IsNull := by
  refine Result.Ensures.bind fun b _ => ?_
  rcases unseen with h | h <;> simp [h]

theorem Container.delete_isNull : (Container.delete i).IsNull := by
  refine Result.Ensures.bind fun b _ => ?_
  rcases unseen with h | h
  · simp [i.scalar?_of_operand? h]
  · simp [h]

theorem TextTest.testTexts_isNull (caseSensitive : Bool) (test : List Char → List Char → Bool) :
    (TextTest.testTexts caseSensitive test i).isNull = true := by
  rcases unseen with h | h <;>
    simp [TextTest.testTexts, TextTest.text?, i.scalar?_of_operand? h]

theorem TextTest.stringMatch_isNull : (TextTest.stringMatch i).IsNull :=
  Result.Ensures.bind fun _ _ => Result.Ensures.bind fun _ _ => Result.Ensures.bind fun _ _ =>
    Result.ensures_pure.2 (TextTest.testTexts_isNull unseen _ _)

theorem TextTest.substring_isNull : (TextTest.substring i).IsNull :=
  Result.Ensures.bind fun _ _ => Result.ensures_pure.2 (TextTest.testTexts_isNull unseen _ _)

end Either

/-! ## Functions of numbers -/

/-- A function of one number looks at the first operand only. -/
theorem Function.mathOperator_eq_of_first {i j : Invocation}
    (unary : i.expression.attribute? "name" ≠ some "atan2")
    (expression : i.expression = j.expression)
    (first : i.operands[0]? = j.operands[0]?) : mathOperator i = mathOperator j := by
  have scalar : i.scalar? 0 = j.scalar? 0 := by
    simp [Invocation.scalar?, Invocation.operand?, first]
  have number : i.number? 0 = j.number? 0 := by simp [Invocation.number?, scalar]
  unfold mathOperator Attribute.required
  rw [← expression]
  cases hname : i.expression.attribute? "name" with
  | none => rfl
  | some name =>
      have notAngle : name ≠ "atan2" := fun h => unary (h ▸ hname)
      simp only [bind, Except.bind, if_neg notAngle, absolute, scalar, number]

/-- The angle of a point needs both coordinates. -/
theorem Function.mathOperator_angle_isNull {i : Invocation}
    (angle : i.expression.attribute? "name" = some "atan2") (unseen : i.operand? 1 = none) :
    (mathOperator i).IsNull := by
  have number : i.number? 1 = none := i.number?_of_operand? unseen
  unfold mathOperator Attribute.required
  rw [angle]
  simp [Result.IsNull, bind, Except.bind, atan2, number]

/-! ## Operators that ask for NULL -/

section Any

variable {i : Invocation} (null : i.anyNull = true)
include null

theorem Arithmetic.numbers?_of_anyNull : Arithmetic.numbers? i = none := by
  simp [Arithmetic.numbers?, null]

theorem Arithmetic.combine_isNull (onIntegers : Int64 → Int64 → Option Int64)
    (onFloats : Float → Float → Float) : (Arithmetic.combine onIntegers onFloats i).IsNull := by
  simp [Result.IsNull, Arithmetic.combine, Arithmetic.numbers?_of_anyNull null]

theorem Arithmetic.subtract_isNull : (Arithmetic.subtract i).IsNull := by
  simp [Result.IsNull, Arithmetic.subtract, Arithmetic.numbers?_of_anyNull null]

theorem Arithmetic.onPair_isNull (result : Float → Float → Operand) :
    (Arithmetic.onPair result i).IsNull := by
  simp [Result.IsNull, Arithmetic.onPair, Arithmetic.numbers?_of_anyNull null]

theorem Arithmetic.onMagnitudes_isNull (result : List Nat → Option Nat) :
    (Arithmetic.onMagnitudes result i).IsNull := by
  simp [Result.IsNull, Arithmetic.onMagnitudes, Arithmetic.numbers?_of_anyNull null]

theorem Arithmetic.extreme_isNull (better : Int64 → Int64 → Bool) (pick : Float → Float → Float)
    (bound : Float) : (Arithmetic.extreme better pick bound i).IsNull := by
  simp [Result.IsNull, Arithmetic.extreme, Arithmetic.numbers?_of_anyNull null]

theorem Statistics.statsOperator_isNull : (Statistics.statsOperator i).IsNull := by
  refine Result.Ensures.bind fun name _ => ?_
  split
  · exact Result.ensures_error
  · simp [null]

end Any

/-! ## The operators of the standard registry -/

/-- An operator yields NULL, or an error, whenever the number of operands is within the bounds of
its contract and one of them is NULL. -/
def Processor.PropagatesNull : Processor → Prop
  | .leaf _ => True
  | .operator contract process => ∀ (host : Host) (chance : Chance) (i : Invocation),
      contract.least ≤ i.operands.length →
      (∀ most, contract.most = some most → i.operands.length ≤ most) →
      i.anyNull = true → (process host chance i).IsNull

namespace Processor

/-- An operator with one operand has to look at it. -/
theorem propagatesNull_of_first {contract : Contract}
    {process : Host → Chance → Invocation → Result Operand}
    (least : contract.least = 1) (most : contract.most = some 1)
    (h : ∀ host chance i, i.operand? 0 = none → (process host chance i).IsNull) :
    (operator contract process).PropagatesNull := by
  intro host chance i hl hm null
  have one : i.operands.length = 1 := by
    have := hm 1 most
    omega
  exact h host chance i (i.operand?_zero_of_anyNull one null)

/-- An operator with two operands has to look at both. -/
theorem propagatesNull_of_either {contract : Contract}
    {process : Host → Chance → Invocation → Result Operand} (least : contract.least = 2)
    (most : contract.most = some 2)
    (h : ∀ host chance i,
      i.operand? 0 = none ∨ i.operand? 1 = none → (process host chance i).IsNull) :
    (operator contract process).PropagatesNull := by
  intro host chance i hl hm null
  have two : i.operands.length = 2 := by
    have := hm 2 most
    omega
  exact h host chance i (i.operand?_zero_or_one_of_anyNull two null)

/-- An operator with any number of operands has to ask for NULL. -/
theorem propagatesNull_of_anyNull {contract : Contract}
    {process : Host → Chance → Invocation → Result Operand}
    (h : ∀ host chance i, i.anyNull = true → (process host chance i).IsNull) :
    (operator contract process).PropagatesNull := fun host chance i _ _ => h host chance i

end Processor

namespace Registry

/-- The operators for which NULL among the operands has a meaning of its own. -/
def nullExceptions : List String :=
  ["and", "or", "anyN", "isNull", "containerSize", "multiple", "ordered", "repeat",
    "customOperator"]

open Processor in
/-- Every operator of the standard registry propagates NULL, apart from the exceptions and the
functions of numbers. -/
theorem standard_propagatesNull {tag : String} {p : Processor}
    (found : standard.find? tag = some p) (regular : tag ∉ nullExceptions)
    (other : tag ≠ "mathOperator") : p.PropagatesNull := by
  revert regular other
  refine find?_standard_induction
    (P := fun tag p => tag ∉ nullExceptions → tag ≠ "mathOperator" → p.PropagatesNull)
    ?leaf ?logic ?comparison ?arithmetic ?function ?container ?test found
  case leaf => simp [leaves, leafOf, PropagatesNull]
  case logic =>
    simp only [logic, List.forall_mem_cons]
    exact ⟨fun regular _ => absurd (by decide) regular,
      fun regular _ => absurd (by decide) regular,
      fun _ _ => propagatesNull_of_first rfl rfl fun _ _ _ => Logic.not_isNull,
      fun regular _ => absurd (by decide) regular,
      fun regular _ => absurd (by decide) regular, List.forall_mem_nil _⟩
  case comparison =>
    simp only [comparisons, List.forall_mem_cons]
    exact ⟨fun _ _ => propagatesNull_of_either rfl rfl fun _ _ _ => Comparison.equal_isNull,
      fun _ _ => propagatesNull_of_either rfl rfl fun host _ _ h =>
        Comparison.equalRounded_isNull h host.decimals,
      fun _ _ => propagatesNull_of_either rfl rfl fun _ _ _ h =>
        Comparison.compareNumbers_isNull h _,
      fun _ _ => propagatesNull_of_either rfl rfl fun _ _ _ h =>
        Comparison.compareNumbers_isNull h _,
      fun _ _ => propagatesNull_of_either rfl rfl fun _ _ _ h =>
        Comparison.compareNumbers_isNull h _,
      fun _ _ => propagatesNull_of_either rfl rfl fun _ _ _ h =>
        Comparison.compareNumbers_isNull h _,
      fun _ _ => propagatesNull_of_either rfl rfl fun _ _ _ h =>
        Comparison.compareDurations_isNull h _,
      fun _ _ => propagatesNull_of_either rfl rfl fun _ _ _ h =>
        Comparison.compareDurations_isNull h _,
      fun _ _ => propagatesNull_of_either rfl rfl fun _ _ _ => Comparison.matchValues_isNull,
      List.forall_mem_nil _⟩
  case arithmetic =>
    simp only [arithmetic, List.forall_mem_cons]
    exact ⟨fun _ _ => propagatesNull_of_anyNull fun _ _ _ h => Arithmetic.combine_isNull h _ _,
      fun _ _ => propagatesNull_of_anyNull fun _ _ _ h => Arithmetic.combine_isNull h _ _,
      fun _ _ => propagatesNull_of_anyNull fun _ _ _ => Arithmetic.subtract_isNull,
      fun _ _ => propagatesNull_of_anyNull fun _ _ _ h => Arithmetic.onPair_isNull h _,
      fun _ _ => propagatesNull_of_anyNull fun _ _ _ h => Arithmetic.onPair_isNull h _,
      fun _ _ => propagatesNull_of_either rfl rfl fun _ _ _ h =>
        Arithmetic.onIntegerPair_isNull h _,
      fun _ _ => propagatesNull_of_either rfl rfl fun _ _ _ h =>
        Arithmetic.onIntegerPair_isNull h _,
      fun _ _ => propagatesNull_of_first rfl rfl fun _ _ _ => Arithmetic.integerToFloat_isNull,
      fun _ _ => propagatesNull_of_anyNull fun _ _ _ h => Arithmetic.onMagnitudes_isNull h _,
      fun _ _ => propagatesNull_of_anyNull fun _ _ _ h => Arithmetic.onMagnitudes_isNull h _,
      fun _ _ => propagatesNull_of_anyNull fun _ _ _ h => Arithmetic.extreme_isNull h _ _ _,
      fun _ _ => propagatesNull_of_anyNull fun _ _ _ h => Arithmetic.extreme_isNull h _ _ _,
      List.forall_mem_nil _⟩
  case function =>
    simp only [functions, List.forall_mem_cons]
    exact ⟨fun _ _ => propagatesNull_of_first rfl rfl fun _ _ _ h => Rounding.toIntegral_isNull h _,
      fun _ _ => propagatesNull_of_first rfl rfl fun _ _ _ h => Rounding.toIntegral_isNull h _,
      fun _ _ => propagatesNull_of_first rfl rfl fun host _ _ h =>
        Rounding.roundTo_isNull h host.decimals,
      fun _ other => absurd rfl other,
      fun _ _ => propagatesNull_of_anyNull fun _ _ _ => Statistics.statsOperator_isNull,
      List.forall_mem_nil _⟩
  case container =>
    simp only [containers, List.forall_mem_cons]
    exact ⟨fun regular _ => absurd (by decide) regular,
      fun regular _ => absurd (by decide) regular,
      fun regular _ => absurd (by decide) regular,
      fun regular _ => absurd (by decide) regular,
      fun _ _ => propagatesNull_of_either rfl rfl fun _ _ _ => Container.member_isNull,
      fun _ _ => propagatesNull_of_either rfl rfl fun _ _ _ => Container.contains_isNull,
      fun _ _ => propagatesNull_of_either rfl rfl fun _ _ _ => Container.delete_isNull,
      fun _ _ => propagatesNull_of_first rfl rfl fun _ _ _ => Container.index_isNull,
      fun _ _ => propagatesNull_of_first rfl rfl fun _ _ _ => Container.fieldValue_isNull,
      fun _ _ => propagatesNull_of_first rfl rfl fun _ chance _ h =>
        Container.random_isNull h chance,
      List.forall_mem_nil _⟩
  case test =>
    simp only [tests, List.forall_mem_cons]
    exact ⟨fun _ _ => propagatesNull_of_either rfl rfl fun _ _ _ => TextTest.stringMatch_isNull,
      fun _ _ => propagatesNull_of_first rfl rfl fun host _ _ h =>
        TextTest.patternMatch_isNull h host.patterns,
      fun _ _ => propagatesNull_of_either rfl rfl fun _ _ _ => TextTest.substring_isNull,
      fun _ _ => propagatesNull_of_first rfl rfl fun _ _ _ => Area.inside_isNull,
      fun regular _ => absurd (by decide) regular, List.forall_mem_nil _⟩

/-- What the standard registry holds for functions of numbers. -/
theorem find?_mathOperator : standard.find? "mathOperator" =
    some (operatorOf 1 (some 2) [.single] BaseType.numeric Function.mathOperator) := by
  rw [find?_standard]
  rfl

/-- A NULL operand goes unnoticed: it is the second operand of a function of one number, whose first
operand is not NULL. -/
def OverlooksNull (tag : String) (i : Invocation) : Prop :=
  tag = "mathOperator" ∧ i.expression.attribute? "name" ≠ some "atan2" ∧
    ∃ a b : Operand, i.operands = [a, b] ∧ a.isNull = false ∧ b.isNull = true

/-- A function of numbers that is given a NULL operand overlooks it or yields NULL. -/
theorem mathOperator_isNull_of_not_overlooks {i : Invocation} (least : 1 ≤ i.operands.length)
    (most : i.operands.length ≤ 2) (null : i.anyNull = true)
    (noticed : ¬ OverlooksNull "mathOperator" i) : (Function.mathOperator i).IsNull := by
  by_cases one : i.operands.length = 1
  · exact Function.mathOperator_isNull (i.operand?_zero_of_anyNull one null)
  have two : i.operands.length = 2 := by omega
  rcases i.operand?_zero_or_one_of_anyNull two null with h | h
  · exact Function.mathOperator_isNull h
  by_cases angle : i.expression.attribute? "name" = some "atan2"
  · exact Function.mathOperator_angle_isNull angle h
  obtain ⟨a, b, hab⟩ := List.length_eq_two.1 two
  -- The second operand is NULL and is not looked at, so the first one has to be NULL.
  have first : a.isNull = true := by
    by_contra ha
    have hb : b.isNull = true := by
      simpa [Invocation.anyNull, Operand.anyNull, hab, ha] using null
    exact noticed ⟨rfl, angle, a, b, hab, by simpa using ha, hb⟩
  exact Function.mathOperator_isNull (i.operand?_of_isNull (by simp [hab]) first)

/-- Operands that keep the contract of a regular operator, and of which one is NULL, give NULL or an
error, unless the NULL is overlooked; then the answer is that for the first operand alone. -/
theorem standard_null_operand {tag : String} {contract : Contract}
    {process : Host → Chance → Invocation → Result Operand}
    (found : standard.find? tag = some (.operator contract process))
    (regular : tag ∉ nullExceptions) (host : Host) (chance : Chance) (i : Invocation)
    (valid : contract.validate tag i.operands = .ok ()) (null : i.anyNull = true) :
    (¬ OverlooksNull tag i → (process host chance i).IsNull) ∧
      (OverlooksNull tag i →
        process host chance i =
          process host chance { i with operands := i.operands.take 1 }) := by
  obtain ⟨least, most, -⟩ := Contract.validate_eq_ok.1 valid
  by_cases other : tag = "mathOperator"
  · subst other
    rw [find?_mathOperator, operatorOf] at found
    obtain ⟨rfl, rfl⟩ : _ = contract ∧ _ = process := by simpa using found
    constructor
    · exact mathOperator_isNull_of_not_overlooks least (most 2 rfl) null
    · rintro ⟨-, unary, a, b, hab, -, -⟩
      exact Function.mathOperator_eq_of_first unary rfl (by simp [hab])
  · constructor
    · exact fun _ => standard_propagatesNull found regular other host chance i least most null
    · exact fun overlooked => absurd overlooked.1 other

/-- A sum with a NULL operand is NULL. -/
theorem sum_null_operand :
    let i : Invocation := ⟨.leaf "sum" [], [some (.integer 1), none], .empty⟩
    "sum" ∉ nullExceptions ∧ i.anyNull = true ∧ (Arithmetic.sum i).IsNull := by
  refine ⟨by decide, by decide, ?_⟩
  have found : standard.find? "sum" =
      some (operatorOf 1 none singleOrContainer BaseType.numeric Arithmetic.sum) := by
    rw [find?_standard]
    rfl
  exact (standard_null_operand found (by decide) .plain .first _ rfl (by decide)).1
    fun overlooked => absurd overlooked.1 (by decide)

/-- The magnitude of an integer is given although a NULL operand follows. -/
theorem abs_overlooks_null :
    let i : Invocation :=
      ⟨.leaf "mathOperator" [("name", "abs")], [some (.integer 3), none], .empty⟩
    ∃ contract process, standard.find? "mathOperator" = some (.operator contract process) ∧
      "mathOperator" ∉ nullExceptions ∧ contract.validate "mathOperator" i.operands = .ok () ∧
      i.anyNull = true ∧ process .plain .first i = .ok (some (.integer 3)) :=
  ⟨_, _, find?_mathOperator, by decide, rfl, by decide, rfl⟩

end Registry

end ItemScoring
