import ItemScoring.Proofs.Invocation
import ItemScoring.Proofs.Order.Session
import ItemScoring.Proofs.Registry

/-!
# Operators do not see how collections are arranged

An operator that is called with reordered operands yields reordered values, or reports the same
error. Most operators look at their operands through views that are the same for reordered
operands: single scalars, whether something is NULL, the common base type, and the sorted stream of
numbers or truth values. The operators on collections look at the scalars in the order in which
they are held. They count, search or filter them, or their contract refuses collections.
-/

set_option autoImplicit false

namespace ItemScoring

/-- The same operand, except that collections may be arranged differently. -/
abbrev Operand.Reordered : Operand → Operand → Prop := Option.Rel Value.Reordered

theorem Operand.Reordered.refl (o : Operand) : Operand.Reordered o o := by
  cases o with
  | none => exact .none
  | some v => exact .some (.refl v)

/-- The same invocation, except that collections of operands and variables may be arranged
differently. -/
structure Invocation.Reordered (i j : Invocation) : Prop where
  expression : i.expression = j.expression
  operands : List.Forall₂ Operand.Reordered i.operands j.operands
  session : i.session.Reordered j.session

/-- The same value, perhaps reordered, or the same error. -/
abbrev Result.Reordered : Result Operand → Result Operand → Prop :=
  Result.Related Operand.Reordered

theorem Result.Reordered.of_eq {r t : Result Operand} (h : r = t) : Result.Reordered r t :=
  Result.Related.of_eq Operand.Reordered.refl h

/-! ## Views of operands -/

/-- Related lists have related entries at every index. -/
theorem rel_getElem? {α β : Type} {R : α → β → Prop} {as : List α} {bs : List β}
    (h : List.Forall₂ R as bs) (k : Nat) : Option.Rel R as[k]? bs[k]? := by
  induction h generalizing k with
  | nil => exact .none
  | cons head _ ih =>
      cases k with
      | zero => exact .some head
      | succ k => exact ih k

namespace Operand

variable {os os' : List Operand} (h : List.Forall₂ Operand.Reordered os os')
include h

theorem map_shape?_reordered : os.map shape? = os'.map shape? := by
  induction h with
  | nil => rfl
  | cons head _ ih =>
      rw [List.map_cons, List.map_cons, ih]
      cases head with
      | none => rfl
      | some related =>
          simp only [shape?, filled, Option.filter_some, related.isNull]
          split
          · simp only [Option.map_some, related.cardinality, related.baseType]
          · rfl

theorem allInteger_reordered : allInteger os = allInteger os' := by
  unfold allInteger
  induction h with
  | nil => rfl
  | cons head _ ih =>
      rw [List.all_cons, List.all_cons, ih]
      cases head with
      | none => rfl
      | some related => simp only [Option.elim_some, related.baseType]

/-- The stream is the same, but for the places of the names of pairs. -/
theorem map_canonical_stream :
    (stream os).map (Option.map Scalar.canonical) =
      (stream os').map (Option.map Scalar.canonical) := by
  unfold stream
  induction h with
  | nil => rfl
  | cons head _ ih =>
      rw [List.flatMap_cons, List.flatMap_cons, List.map_append, List.map_append, ih]
      cases head with
      | none => rfl
      | some related =>
          simp only [Option.elim_some]
          rw [related.map_canonical_stream]

/-- What does not look at the places of the names of pairs sees the same in the streams. -/
theorem map_stream_reordered {α : Type} {f : Option Scalar → α}
    (invariant : ∀ s, f (s.map Scalar.canonical) = f s) :
    (stream os).map f = (stream os').map f := by
  have canonical : f = f ∘ Option.map Scalar.canonical := funext fun s => (invariant s).symm
  rw [canonical, ← List.map_map, ← List.map_map, map_canonical_stream h]

end Operand

@[simp] theorem Quantity.ofScalar?_canonical (s : Scalar) :
    ofScalar? s.canonical = ofScalar? s := by
  cases s <;> rfl

/-- The finite numbers among reordered operands are the same, in the same order. -/
theorem Quantity.ofOperands_reordered {os os' : List Operand}
    (h : List.Forall₂ Operand.Reordered os os') : ofOperands os = ofOperands os' := by
  have numbers := Operand.map_stream_reordered h (f := fun s => s.bind ofScalar?)
    fun s => by cases s <;> simp
  unfold ofOperands
  have split : ∀ l : List (Option Scalar), l.filterMap (fun s => s.bind ofScalar?) =
      (l.map fun s => s.bind ofScalar?).filterMap id := by simp
  rw [split, split, numbers]

namespace Invocation.Reordered

variable {i j : Invocation} (h : i.Reordered j)
include h

theorem tag : i.tag = j.tag := congrArg Expression.tag h.expression

theorem operand? (index : Nat) : Operand.Reordered (i.operand? index) (j.operand? index) := by
  unfold Invocation.operand?
  rcases rel_cases (rel_getElem? h.operands index) with
    ⟨left, right⟩ | ⟨o, o', left, right, related⟩
  · rw [left, right]
    exact .none
  · rw [left, right]
    cases related with
    | none => exact .none
    | @some v w related =>
        simp only [Option.join_some, Option.filter_some, related.isNull]
        cases w.isNull with
        | true => exact .none
        | false => exact .some related

theorem scalar? (index : Nat) : i.scalar? index = j.scalar? index := by
  unfold Invocation.scalar?
  rcases rel_cases (h.operand? index) with ⟨left, right⟩ | ⟨v, w, left, right, related⟩
  · rw [left, right]
  · rw [left, right]
    exact related.single?

/-- Reordered invocations are alike. -/
theorem alike : i.Alike j where
  expression := h.expression
  references := h.session.sameReferences.ofExpression i.expression
  shapes := Operand.map_shape?_reordered h.operands
  scalar? := h.scalar?
  quantities := Quantity.ofOperands_reordered h.operands
  truthValues := Operand.map_stream_reordered h.operands fun s => by cases s <;> simp

theorem requiredInteger (name : String) : i.requiredInteger name = j.requiredInteger name :=
  h.alike.requiredInteger name

theorem commonBaseType : i.commonBaseType = j.commonBaseType := h.alike.commonBaseType

end Invocation.Reordered

/-! ## Operators that compare whole values -/

section Values

variable {i j : Invocation} (h : i.Reordered j)
include h

theorem Logic.isNull_reordered : Logic.isNull i = Logic.isNull j := by
  unfold Logic.isNull
  rcases rel_cases (h.operand? 0) with ⟨left, right⟩ | ⟨v, w, left, right, related⟩
  · rw [left, right]
  · simp only [left, right, related.single?]

theorem Comparison.matchValues_reordered : Comparison.matchValues i = Comparison.matchValues j := by
  unfold Comparison.matchValues
  rcases rel_cases (h.operand? 0) with ⟨left, right⟩ | ⟨a, a', left, right, first⟩
  · simp only [left, right]
  · rcases rel_cases (h.operand? 1) with ⟨left', right'⟩ | ⟨b, b', left', right', second⟩
    · simp only [left, right, left', right']
    · simp only [left, right, left', right', first.cardinality, first.baseType,
        second.cardinality, second.baseType, Comparison.valuesAgree_reordered first second,
        Invocation.refuse, h.tag]

end Values

end ItemScoring
