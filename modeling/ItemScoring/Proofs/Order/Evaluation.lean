import ItemScoring.Engine
import ItemScoring.Proofs.Evaluation
import ItemScoring.Proofs.Order.Containers

/-!
# The values of expressions do not depend on how collections are arranged

Over reordered sessions an expression has reordered values, or the same error. Left out are the
expressions that look at the arrangement on purpose: random choices, the scores of points, and the
operators of the host.
-/

set_option autoImplicit false

namespace ItemScoring

/-! ## Scores -/

namespace Leaf

/-- Whether an entry of a mapping applies does not depend on the places of the names of a pair. -/
@[simp] theorem keyApplies_canonical (s : Scalar) : keyApplies s.canonical = keyApplies s := by
  funext entry
  unfold keyApplies
  rw [Scalar.text?_canonical, Scalar.agrees_canonical]

/-- The scores do not depend on the places of the names of pairs. -/
theorem addScores_map_canonical (entries : List MapEntry) (score : MapEntry → Float)
    (defaultScore : Float) (used : List Nat) (total : Float) (ss : List Scalar) :
    addScores entries keyApplies score defaultScore used total (ss.map Scalar.canonical) =
      addScores entries keyApplies score defaultScore used total ss := by
  induction ss generalizing used total with
  | nil => rfl
  | cons s rest ih => simp only [List.map_cons, addScores, keyApplies_canonical, ih]

/-- The distinct scalars are the same, but for the places of the names of pairs. -/
theorem map_canonical_distinct (sofar ss : List Scalar) :
    (distinct sofar ss).map Scalar.canonical =
      distinct (sofar.map Scalar.canonical) (ss.map Scalar.canonical) := by
  induction ss generalizing sofar with
  | nil => simp [distinct]
  | cons s rest ih =>
      have known : ((sofar.map Scalar.canonical).any (·.agrees s.canonical)) =
          sofar.any (·.agrees s) := by
        simp [List.any_map, Function.comp_def]
      rw [List.map_cons, distinct, distinct, known]
      split
      · exact ih sofar
      · exact ih (s :: sofar)

/-- A mapping gives reordered payloads one score. -/
theorem mapScalars_reordered (m : Mapping) {c : Cardinality} (b : Option BaseType) {p q : Payload}
    (h : p.Reordered c q) : mapScalars m c b p = mapScalars m c b q := by
  unfold mapScalars
  rw [← addScores_map_canonical,
    ← addScores_map_canonical _ _ _ _ _ (distinct [] (q.normalized c b)),
    map_canonical_distinct, map_canonical_distinct, h.map_canonical_normalized]

/-! ## Leaf expressions -/

variable {s t : Session} (h : s.Reordered t) (e : Expression)
include h

/-- A part of a variable is reordered when that part of reordered variables is. -/
theorem readVariable_reordered {part : Variable → Payload}
    (related : ∀ v w, Variable.Reordered v w → (part v).Reordered v.cardinality (part w)) :
    Result.Reordered (readVariable part e s) (readVariable part e t) := by
  unfold readVariable
  refine Result.Related.bind_eq rfl fun id _ => ?_
  rcases rel_cases (h.find? id) with ⟨left, right⟩ | ⟨v, w, left, right, both⟩
  · rw [left, right]
    exact .none
  · rw [left, right]
    refine .some ?_
    unfold Variable.shaped
    dsimp only
    rw [← both.cardinality, ← both.baseType]
    exact Value.reordered_mk (related v w both)

theorem mapResponse_reordered : mapResponse e s = mapResponse e t := by
  unfold mapResponse declared
  cases identifier e with
  | error fault => rfl
  | ok id =>
      simp only [bind, Except.bind]
      rcases rel_cases (h.find? id) with ⟨left, right⟩ | ⟨v, w, left, right, both⟩
      · simp only [left, right]
      · simp only [left, right, pure, Except.pure]
        rw [← both.mapping, ← both.identifier, ← both.value.isNull, ← both.cardinality,
          ← both.baseType]
        cases v.mapping with
        | none => rfl
        | some m =>
            dsimp only
            rw [mapScalars_reordered m v.baseType both.value]

end Leaf

/-! ## The processors of the standard registry -/

/-- A processor yields reordered values, or the same error, for reordered sessions and operands,
whatever chance decides. The operands of an operator have to be admitted by its contract. -/
def Processor.IgnoresOrder : Processor → Prop
  | .leaf evaluate => ∀ host e s t, Session.Reordered s t →
      ∀ c c', Result.Reordered (evaluate host c e s) (evaluate host c' e t)
  | .operator contract process => ∀ host i j, Invocation.Reordered i j →
      (∀ o ∈ i.operands, contract.Admits o) →
        ∀ c c', Result.Reordered (process host c i) (process host c' j)

namespace Processor

/-- A leaf that yields the same ignores how collections are arranged. -/
theorem ignoresOrder_leafOf {evaluate : Expression → Session → Result Operand}
    (h : ∀ e s t, Session.Reordered s t → evaluate e s = evaluate e t) :
    (Registry.leafOf evaluate).IgnoresOrder :=
  fun _ e s t related _ _ => .of_eq (h e s t related)

/-- An operator that may use the libraries of the host, but no chance. -/
theorem ignoresOrder_of_host {contract : Contract} {process : Host → Invocation → Result Operand}
    (h : ∀ host i j, Invocation.Alike i j → process host i = process host j) :
    (Processor.operator contract fun host _ => process host).IgnoresOrder :=
  fun host i j related _ _ _ => .of_eq (h host i j related.alike)

theorem ignoresOrder_of_alike {least : Nat} {most : Option Nat} {cardinalities : List Cardinality}
    {baseTypes : List BaseType} {process : Invocation → Result Operand}
    (h : ∀ i j, Invocation.Alike i j → process i = process j) :
    (Registry.operatorOf least most cardinalities baseTypes process).IgnoresOrder :=
  ignoresOrder_of_host fun _ => h

theorem ignoresOrder_operatorOf {least : Nat} {most : Option Nat} {cardinalities : List Cardinality}
    {baseTypes : List BaseType} {process : Invocation → Result Operand}
    (h : ∀ i j, Invocation.Reordered i j → process i = process j) :
    (Registry.operatorOf least most cardinalities baseTypes process).IgnoresOrder :=
  fun _ i j related _ _ _ => .of_eq (h i j related)

end Processor

namespace Registry

/-- The expressions that may see how collections are arranged. -/
def orderSensitive : List String :=
  ["random", "randomInteger", "randomFloat", "customOperator", "mapResponsePoint"]

open Processor in
/-- Every processor of the standard registry ignores how collections are arranged, apart from the
exceptions. -/
theorem standard_ignoresOrder {tag : String} {p : Processor} (found : standard.find? tag = some p)
    (regular : tag ∉ orderSensitive) : p.IgnoresOrder := by
  revert regular
  refine find?_standard_induction (P := fun tag p => tag ∉ orderSensitive → p.IgnoresOrder)
    ?leaf ?logic ?comparison ?arithmetic ?function ?container ?test found
  case leaf =>
    simp only [leaves, List.forall_mem_cons]
    exact ⟨fun _ => ignoresOrder_leafOf fun _ _ _ _ => rfl,
      fun _ _ e _ _ h _ _ => Leaf.readVariable_reordered h e fun _ _ both => both.value,
      fun _ _ e _ _ h _ _ => Leaf.readVariable_reordered h e fun _ _ both => both.correctResponse,
      fun _ _ e _ _ h _ _ => Leaf.readVariable_reordered h e fun _ _ both => both.defaultValue,
      fun _ => ignoresOrder_leafOf fun _ _ _ _ => rfl,
      fun _ => ignoresOrder_leafOf fun _ _ _ _ => rfl,
      fun _ => ignoresOrder_leafOf fun e _ _ h => Leaf.mapResponse_reordered h e,
      fun regular => absurd (by decide) regular, fun regular => absurd (by decide) regular,
      fun regular => absurd (by decide) regular, List.forall_mem_nil _⟩
  case logic =>
    simp only [logic, List.forall_mem_cons]
    exact ⟨fun _ => ignoresOrder_of_alike fun _ _ => Logic.and_alike,
      fun _ => ignoresOrder_of_alike fun _ _ => Logic.or_alike,
      fun _ => ignoresOrder_of_alike fun _ _ => Logic.not_alike,
      fun _ => ignoresOrder_of_alike fun _ _ => Logic.anyN_alike,
      fun _ => ignoresOrder_operatorOf fun _ _ => Logic.isNull_reordered, List.forall_mem_nil _⟩
  case comparison =>
    simp only [comparisons, List.forall_mem_cons]
    exact ⟨fun _ => ignoresOrder_of_alike fun _ _ => Comparison.equal_alike,
      fun _ => ignoresOrder_of_host fun host _ _ h =>
        Comparison.equalRounded_alike h host.decimals,
      fun _ => ignoresOrder_of_alike fun _ _ h => Comparison.compareNumbers_alike h _,
      fun _ => ignoresOrder_of_alike fun _ _ h => Comparison.compareNumbers_alike h _,
      fun _ => ignoresOrder_of_alike fun _ _ h => Comparison.compareNumbers_alike h _,
      fun _ => ignoresOrder_of_alike fun _ _ h => Comparison.compareNumbers_alike h _,
      fun _ => ignoresOrder_of_alike fun _ _ h => Comparison.compareDurations_alike h _,
      fun _ => ignoresOrder_of_alike fun _ _ h => Comparison.compareDurations_alike h _,
      fun _ => ignoresOrder_operatorOf fun _ _ => Comparison.matchValues_reordered,
      List.forall_mem_nil _⟩
  case arithmetic =>
    simp only [arithmetic, List.forall_mem_cons]
    exact ⟨fun _ => ignoresOrder_operatorOf fun _ _ h =>
        Arithmetic.combine_alike (Operand.allInteger_reordered h.operands) h.alike _ _,
      fun _ => ignoresOrder_operatorOf fun _ _ h =>
        Arithmetic.combine_alike (Operand.allInteger_reordered h.operands) h.alike _ _,
      fun _ => ignoresOrder_operatorOf fun _ _ h =>
        Arithmetic.subtract_alike (Operand.allInteger_reordered h.operands) h.alike,
      fun _ => ignoresOrder_of_alike fun _ _ h => Arithmetic.onPair_alike h _,
      fun _ => ignoresOrder_of_alike fun _ _ h => Arithmetic.onPair_alike h _,
      fun _ => ignoresOrder_of_alike fun _ _ h => Arithmetic.onIntegerPair_alike h _,
      fun _ => ignoresOrder_of_alike fun _ _ h => Arithmetic.onIntegerPair_alike h _,
      fun _ => ignoresOrder_of_alike fun _ _ => Arithmetic.integerToFloat_alike,
      fun _ => ignoresOrder_of_alike fun _ _ h => Arithmetic.onMagnitudes_alike h _,
      fun _ => ignoresOrder_of_alike fun _ _ h => Arithmetic.onMagnitudes_alike h _,
      fun _ => ignoresOrder_operatorOf fun _ _ h =>
        Arithmetic.extreme_alike (Operand.allInteger_reordered h.operands) h.alike _ _ _,
      fun _ => ignoresOrder_operatorOf fun _ _ h =>
        Arithmetic.extreme_alike (Operand.allInteger_reordered h.operands) h.alike _ _ _,
      List.forall_mem_nil _⟩
  case function =>
    simp only [functions, List.forall_mem_cons]
    exact ⟨fun _ => ignoresOrder_of_alike fun _ _ h => Rounding.toIntegral_alike h _,
      fun _ => ignoresOrder_of_alike fun _ _ h => Rounding.toIntegral_alike h _,
      fun _ => ignoresOrder_of_host fun host _ _ h => Rounding.roundTo_alike h host.decimals,
      fun _ => ignoresOrder_of_alike fun _ _ => Function.mathOperator_alike,
      fun _ => ignoresOrder_of_alike fun _ _ => Statistics.statsOperator_alike,
      List.forall_mem_nil _⟩
  case container =>
    simp only [containers, List.forall_mem_cons]
    exact ⟨fun _ _ _ _ h _ _ _ => Container.multiple_reordered h,
      fun _ _ _ _ h admits _ _ =>
        Container.build_reordered h 1 fun _ => Container.allScalars_eq h admits (by decide),
      fun _ _ _ _ h admits _ _ =>
        Container.repeated_reordered h (Container.allScalars_eq h admits (by decide)),
      fun _ => ignoresOrder_operatorOf fun _ _ => Container.containerSize_reordered,
      fun _ => ignoresOrder_operatorOf fun _ _ => Container.member_reordered,
      fun _ => ignoresOrder_operatorOf fun _ _ => Container.contains_reordered,
      fun _ _ _ _ h _ _ _ => Container.delete_reordered h,
      fun _ _ _ _ h admits _ _ => .of_eq (Container.index_reordered h admits (by decide)),
      fun _ _ _ _ h _ _ _ => Container.fieldValue_reordered h,
      fun regular => absurd (by decide) regular, List.forall_mem_nil _⟩
  case test =>
    simp only [tests, List.forall_mem_cons]
    exact ⟨fun _ => ignoresOrder_of_alike fun _ _ => TextTest.stringMatch_alike,
      fun _ => ignoresOrder_of_host fun host _ _ h => TextTest.patternMatch_alike h host.patterns,
      fun _ => ignoresOrder_of_alike fun _ _ => TextTest.substring_alike,
      fun _ => ignoresOrder_operatorOf fun _ _ => Container.inside_reordered,
      fun regular => absurd (by decide) regular, List.forall_mem_nil _⟩

end Registry

/-! ## Evaluation -/

/-- No node of the expression may see how collections are arranged. -/
def Expression.IgnoresOrder (e : Expression) : Prop :=
  ∀ d ∈ e.nodes, d.tag ∉ Registry.orderSensitive

namespace Engine

variable {g : Engine} {s t : Session}

/-- Over reordered sessions, an expression has reordered values or the same error, at any two
places. -/
theorem evaluateAt_reordered (standard : g.registry = .standard) (h : s.Reordered t)
    {e : Expression} (regular : e.IgnoresOrder) (depth place place' : Nat) :
    Result.Reordered (g.evaluateAt s depth place e) (g.evaluateAt t depth place' e) := by
  refine evaluateAt_related ?leaf ?operator depth place place'
  case leaf =>
    intro d hd evaluate found
    rw [standard] at found
    exact Registry.standard_ignoresOrder found (regular d hd) g.host d s t h
  case operator =>
    intro d hd contract process os os' found operands
    rw [standard] at found
    have related : Invocation.Reordered ⟨d, os, s⟩ ⟨d, os', t⟩ := ⟨rfl, operands, h⟩
    refine ⟨contract.validate_congr d.tag related.alike.shapes, fun valid => ?_⟩
    have admits := (Contract.validate_eq_ok.1 valid).2.2
    exact Registry.standard_ignoresOrder found (regular d hd) g.host _ _ related admits

end Engine

end ItemScoring
