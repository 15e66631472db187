import ItemScoring.Proofs.Absence.Operators
import ItemScoring.Proofs.Evaluation
import ItemScoring.Proofs.Session

/-!
# A variable that holds nothing is as good as none

An expression that names a variable which is not declared yields nothing, and one that names a
declared variable which holds nothing yields the NULL of its shape. No expression makes more of the
difference than that: declaring further variables that hold nothing leaves every error and every
value as it is, except for the form of NULL. Left out are the scores of variables, which have to be
declared for that, random choices, and the operators of the host.
-/

set_option autoImplicit false

namespace ItemScoring

/-! ## Sessions -/

/-- A variable that holds nothing, not by default and not as the right response either. -/
structure Variable.HoldsNothing (v : Variable) : Prop where
  value : v.value = .null
  defaultValue : v.defaultValue = .null
  correctResponse : v.correctResponse = .null

/-- The second session declares what the first declares, and besides only variables that hold
nothing. -/
structure Session.ExtendedByNull (s t : Session) : Prop where
  kept : ∀ v ∈ s.declared, v ∈ t.declared
  added : ∀ v ∈ t.declared, v ∉ s.declared → v.HoldsNothing

namespace Session.ExtendedByNull

variable {s t : Session} (h : s.ExtendedByNull t)
include h

/-- An identifier stands for the same in both sessions, or for a variable that holds nothing and is
not declared in the first. -/
theorem find? (identifier : String) :
    t.find? identifier = s.find? identifier ∨
      (s.find? identifier = none ∧ ∃ w, t.find? identifier = some w ∧ w.HoldsNothing) := by
  cases before : s.find? identifier with
  | some v =>
      obtain ⟨hv, name⟩ := find?_eq_some.1 before
      exact .inl (find?_eq_some.2 ⟨h.kept v hv, name⟩)
  | none =>
      cases after : t.find? identifier with
      | none => exact .inl rfl
      | some w =>
          obtain ⟨hw, name⟩ := find?_eq_some.1 after
          have new : w ∉ s.declared := by
            intro old
            rw [find?_eq_some.2 ⟨old, name⟩] at before
            cases before
          exact .inr ⟨rfl, w, rfl, h.added w hw new⟩

/-- A variable that holds nothing is referred to in vain, like one that is not declared. -/
theorem sameReferences : s.SameReferences t := by
  intro identifier
  rcases h.find? identifier with same | ⟨missing, w, found, nothing⟩
  · rw [same]
  · rw [missing, found, Option.bind_none, Option.bind_some, nothing.value]
    rfl

end Session.ExtendedByNull

/-! ## The processors of the standard registry -/

theorem Leaf.readVariable_eqOrNull {part : Variable → Payload}
    (nothing : ∀ w : Variable, w.HoldsNothing → part w = .null) {s t : Session}
    (h : s.ExtendedByNull t) (e : Expression) :
    Result.EqOrNull (readVariable part e s) (readVariable part e t) := by
  unfold readVariable
  refine Result.Related.bind_eq rfl fun name _ => ?_
  rcases h.find? name with same | ⟨missing, w, found, holds⟩
  · rw [same]
    exact .inl rfl
  · rw [missing, found, Option.map_none, Option.map_some, nothing w holds]
    exact .inr ⟨rfl, rfl⟩

/-- A processor yields the same, or NULL in two forms, or the same error, when variables that hold
nothing are declared besides, operands are NULL in other forms, and chance decides otherwise. -/
def Processor.IgnoresAbsence : Processor → Prop
  | .leaf evaluate => ∀ host e s t, Session.ExtendedByNull s t →
      ∀ c c', Result.EqOrNull (evaluate host c e s) (evaluate host c' e t)
  | .operator _ process => ∀ host i j, Invocation.EqOrNull i j →
      ∀ c c', Result.EqOrNull (process host c i) (process host c' j)

namespace Processor

theorem ignoresAbsence_leafOf {evaluate : Expression → Session → Result Operand}
    (h : ∀ e s t, evaluate e s = evaluate e t) : (Registry.leafOf evaluate).IgnoresAbsence :=
  fun _ e s t _ _ _ => .of_eq (h e s t)

/-- An operator that may use the libraries of the host, but no chance. -/
theorem ignoresAbsence_of_host {contract : Contract} {process : Host → Invocation → Result Operand}
    (h : ∀ host i j, Invocation.Alike i j → process host i = process host j) :
    (Processor.operator contract fun host _ => process host).IgnoresAbsence :=
  fun host i j related _ _ => .of_eq (h host i j related.alike)

variable {least : Nat} {most : Option Nat} {cardinalities : List Cardinality}
  {baseTypes : List BaseType} {process : Invocation → Result Operand}

theorem ignoresAbsence_of_alike (h : ∀ i j, Invocation.Alike i j → process i = process j) :
    (Registry.operatorOf least most cardinalities baseTypes process).IgnoresAbsence :=
  ignoresAbsence_of_host fun _ => h

theorem ignoresAbsence_operatorOf (h : ∀ i j, Invocation.EqOrNull i j → process i = process j) :
    (Registry.operatorOf least most cardinalities baseTypes process).IgnoresAbsence :=
  fun _ i j related _ _ => .of_eq (h i j related)

end Processor

namespace Registry

/-- The expressions that tell a variable that holds nothing from one that is not declared, and those
that chance or the host decides. -/
def absenceSensitive : List String :=
  ["customOperator", "mapResponse", "mapResponsePoint", "random", "randomInteger", "randomFloat"]

open Processor in
/-- Every processor of the standard registry ignores in which form something is NULL, apart from the
exceptions. -/
theorem standard_ignoresAbsence {tag : String} {p : Processor} (found : standard.find? tag = some p)
    (regular : tag ∉ absenceSensitive) : p.IgnoresAbsence := by
  revert regular
  refine find?_standard_induction (P := fun tag p => tag ∉ absenceSensitive → p.IgnoresAbsence)
    ?leaf ?logic ?comparison ?arithmetic ?function ?container ?test found
  case leaf =>
    simp only [leaves, List.forall_mem_cons]
    exact ⟨fun _ => ignoresAbsence_leafOf fun _ _ _ => rfl,
      fun _ _ e _ _ h _ _ =>
        Leaf.readVariable_eqOrNull (fun _ nothing => nothing.value) h e,
      fun _ _ e _ _ h _ _ =>
        Leaf.readVariable_eqOrNull (fun _ nothing => nothing.correctResponse) h e,
      fun _ _ e _ _ h _ _ =>
        Leaf.readVariable_eqOrNull (fun _ nothing => nothing.defaultValue) h e,
      fun _ => ignoresAbsence_leafOf fun _ _ _ => rfl,
      fun _ => ignoresAbsence_leafOf fun _ _ _ => rfl,
      fun regular => absurd (by decide) regular, fun regular => absurd (by decide) regular,
      fun regular => absurd (by decide) regular, fun regular => absurd (by decide) regular,
      List.forall_mem_nil _⟩
  case logic =>
    simp only [logic, List.forall_mem_cons]
    exact ⟨fun _ => ignoresAbsence_of_alike fun _ _ => Logic.and_alike,
      fun _ => ignoresAbsence_of_alike fun _ _ => Logic.or_alike,
      fun _ => ignoresAbsence_of_alike fun _ _ => Logic.not_alike,
      fun _ => ignoresAbsence_of_alike fun _ _ => Logic.anyN_alike,
      fun _ => ignoresAbsence_operatorOf fun _ _ => Logic.isNull_eq, List.forall_mem_nil _⟩
  case comparison =>
    simp only [comparisons, List.forall_mem_cons]
    exact ⟨fun _ => ignoresAbsence_of_alike fun _ _ => Comparison.equal_alike,
      fun _ => ignoresAbsence_of_host fun host _ _ h =>
        Comparison.equalRounded_alike h host.decimals,
      fun _ => ignoresAbsence_of_alike fun _ _ h => Comparison.compareNumbers_alike h _,
      fun _ => ignoresAbsence_of_alike fun _ _ h => Comparison.compareNumbers_alike h _,
      fun _ => ignoresAbsence_of_alike fun _ _ h => Comparison.compareNumbers_alike h _,
      fun _ => ignoresAbsence_of_alike fun _ _ h => Comparison.compareNumbers_alike h _,
      fun _ => ignoresAbsence_of_alike fun _ _ h => Comparison.compareDurations_alike h _,
      fun _ => ignoresAbsence_of_alike fun _ _ h => Comparison.compareDurations_alike h _,
      fun _ => ignoresAbsence_operatorOf fun _ _ => Comparison.matchValues_eq,
      List.forall_mem_nil _⟩
  case arithmetic =>
    simp only [arithmetic, List.forall_mem_cons]
    exact ⟨fun _ _ _ _ h _ _ => Arithmetic.combine_eqOrNull h _ _,
      fun _ _ _ _ h _ _ => Arithmetic.combine_eqOrNull h _ _,
      fun _ _ _ _ h _ _ => Arithmetic.subtract_eqOrNull h,
      fun _ => ignoresAbsence_of_alike fun _ _ h => Arithmetic.onPair_alike h _,
      fun _ => ignoresAbsence_of_alike fun _ _ h => Arithmetic.onPair_alike h _,
      fun _ => ignoresAbsence_of_alike fun _ _ h => Arithmetic.onIntegerPair_alike h _,
      fun _ => ignoresAbsence_of_alike fun _ _ h => Arithmetic.onIntegerPair_alike h _,
      fun _ => ignoresAbsence_of_alike fun _ _ => Arithmetic.integerToFloat_alike,
      fun _ => ignoresAbsence_of_alike fun _ _ h => Arithmetic.onMagnitudes_alike h _,
      fun _ => ignoresAbsence_of_alike fun _ _ h => Arithmetic.onMagnitudes_alike h _,
      fun _ _ _ _ h _ _ => Arithmetic.extreme_eqOrNull h _ _ _,
      fun _ _ _ _ h _ _ => Arithmetic.extreme_eqOrNull h _ _ _, List.forall_mem_nil _⟩
  case function =>
    simp only [functions, List.forall_mem_cons]
    exact ⟨fun _ => ignoresAbsence_of_alike fun _ _ h => Rounding.toIntegral_alike h _,
      fun _ => ignoresAbsence_of_alike fun _ _ h => Rounding.toIntegral_alike h _,
      fun _ => ignoresAbsence_of_host fun host _ _ h => Rounding.roundTo_alike h host.decimals,
      fun _ => ignoresAbsence_of_alike fun _ _ => Function.mathOperator_alike,
      fun _ => ignoresAbsence_of_alike fun _ _ => Statistics.statsOperator_alike,
      List.forall_mem_nil _⟩
  case container =>
    simp only [containers, List.forall_mem_cons]
    exact ⟨fun _ => ignoresAbsence_operatorOf fun _ _ h => Container.build_eq h _ _,
      fun _ => ignoresAbsence_operatorOf fun _ _ h => Container.build_eq h _ _,
      fun _ => ignoresAbsence_operatorOf fun _ _ => Container.repeated_eq,
      fun _ => ignoresAbsence_operatorOf fun _ _ => Container.containerSize_eq,
      fun _ => ignoresAbsence_operatorOf fun _ _ => Container.member_eq,
      fun _ => ignoresAbsence_operatorOf fun _ _ => Container.contains_eq,
      fun _ _ _ _ h _ _ => Container.delete_eqOrNull h,
      fun _ _ _ _ h _ _ => Container.index_eqOrNull h,
      fun _ => ignoresAbsence_operatorOf fun _ _ => Container.fieldValue_eq,
      fun regular => absurd (by decide) regular, List.forall_mem_nil _⟩
  case test =>
    simp only [tests, List.forall_mem_cons]
    exact ⟨fun _ => ignoresAbsence_of_alike fun _ _ => TextTest.stringMatch_alike,
      fun _ => ignoresAbsence_of_host fun host _ _ h =>
        TextTest.patternMatch_alike h host.patterns,
      fun _ => ignoresAbsence_of_alike fun _ _ => TextTest.substring_alike,
      fun _ => ignoresAbsence_operatorOf fun _ _ => Area.inside_eq,
      fun regular => absurd (by decide) regular, List.forall_mem_nil _⟩

end Registry

/-! ## Evaluation -/

/-- No node of the expression can tell in which form something is NULL. -/
def Expression.IgnoresAbsence (e : Expression) : Prop :=
  ∀ d ∈ e.nodes, d.tag ∉ Registry.absenceSensitive

namespace Engine

variable {g : Engine} {s t : Session}

/-- Declaring further variables that hold nothing changes neither the error nor the value of an
expression, except for the form of NULL, wherever the expression stands in either case. -/
theorem evaluate_extendedByNull (standard : g.registry = .standard) (h : s.ExtendedByNull t)
    {e : Expression} (regular : e.IgnoresAbsence) (place place' : Nat) :
    Result.EqOrNull (g.evaluate place e s) (g.evaluate place' e t) := by
  refine evaluateAt_related ?leaf ?operator 1 place place'
  case leaf =>
    intro d hd evaluate found
    rw [standard] at found
    exact Registry.standard_ignoresAbsence found (regular d hd) g.host d s t h
  case operator =>
    intro d hd contract process os os' found operands
    rw [standard] at found
    -- The contract sees no NULL operand, so it admits both invocations or neither.
    have related : Invocation.EqOrNull ⟨d, os, s⟩ ⟨d, os', t⟩ := ⟨rfl, operands, h.sameReferences⟩
    refine ⟨contract.validate_congr d.tag related.shapes, fun _ => ?_⟩
    exact Registry.standard_ignoresAbsence found (regular d hd) g.host _ _ related

/-- A score, and a hint that nobody asked for. -/
def scoreAndHint : Session where
  declared :=
    [⟨"HINT", .single, some .float, .null, .null, .null, none, none, none⟩,
      ⟨"SCORE", .single, some .integer, .single (.integer 3), .null, .null, none, none, none⟩]
  sorted := by
    refine List.pairwise_cons.2 ⟨?_, List.pairwise_singleton _ _⟩
    simp only [List.mem_singleton, forall_eq]
    decide

/-- A sum over a hint is NULL with and without the hint, and only the base type of NULL tells. -/
theorem sum_hint_eqOrNull :
    let s : Session := ⟨scoreAndHint.declared.tail, scoreAndHint.sorted.tail⟩
    let e : Expression :=
      ⟨"sum", [],
        [.leaf "variable" [("identifier", "SCORE")], .leaf "variable" [("identifier", "HINT")]],
        none⟩
    s.ExtendedByNull scoreAndHint ∧ e.IgnoresAbsence ∧
      Engine.standard.evaluate 0 e s = .ok (some (.null .single (some .integer))) ∧
      Engine.standard.evaluate 0 e scoreAndHint = .ok (some (.null .single (some .float))) ∧
      Result.EqOrNull (Engine.standard.evaluate 0 e s)
        (Engine.standard.evaluate 0 e scoreAndHint) := by
  intro s e
  have extended : s.ExtendedByNull scoreAndHint := by
    refine ⟨fun v hv => List.mem_cons_of_mem _ hv, fun v hv new => ?_⟩
    rcases List.mem_cons.1 hv with rfl | old
    · exact ⟨rfl, rfl, rfl⟩
    · exact absurd old new
  have regular : e.IgnoresAbsence := by
    simp [e, Expression.leaf, Expression.IgnoresAbsence, Expression.nodes, Expression.nodesOfAll,
      Registry.absenceSensitive]
  exact ⟨extended, regular, rfl, rfl, evaluate_extendedByNull rfl extended regular 0 0⟩

end Engine

end ItemScoring
