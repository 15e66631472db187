import ItemScoring.Proofs.Engines.Evaluation
import ItemScoring.Proofs.Registry

/-!
# Smaller registries

A registry that knows fewer tags gives no other answers. An expression has the value or the error
that it has with the larger registry, unless the evaluation comes to a tag that the smaller one does
not know. That cannot happen when it knows all tags of the expression.
-/

set_option autoImplicit false

namespace ItemScoring

/-! ## Restrictions -/

namespace Registry

variable {small large : Registry}

/-- The first registry knows a part of the tags of the second, with the same processors. -/
def RestrictionOf (small large : Registry) : Prop :=
  ∀ tag p, small.find? tag = some p → large.find? tag = some p

theorem find?_restrict (r : Registry) (keep : String → Bool) (tag : String) :
    (r.restrict keep).find? tag = if keep tag then r.find? tag else none := by
  unfold restrict find?
  dsimp only
  induction r.processors with
  | nil => simp
  | cons entry rest ih =>
      obtain ⟨name, p⟩ := entry
      by_cases kept : keep name
      · rw [List.filter_cons_of_pos (by simpa using kept), Keyed.lookup_cons, Keyed.lookup_cons, ih]
        by_cases same : tag = name
        · simp [same, kept]
        · simp [same]
      · rw [List.filter_cons_of_neg (by simpa using kept), Keyed.lookup_cons, ih]
        by_cases same : tag = name
        · simp [same, kept]
        · simp [same]

/-- Keeping some tags of a registry restricts it. -/
theorem restrict_restrictionOf (r : Registry) (keep : String → Bool) :
    (r.restrict keep).RestrictionOf r := by
  intro tag p found
  rw [find?_restrict] at found
  split at found
  · exact found
  · cases found

/-- A restriction finds for a tag what the larger registry finds, or nothing. -/
theorem RestrictionOf.find? (h : small.RestrictionOf large) (tag : String) :
    small.find? tag = large.find? tag ∨ small.find? tag = none := by
  cases found : small.find? tag with
  | none => exact .inr rfl
  | some p => exact .inl (h tag p found).symm

end Registry

/-! ## Evaluation -/

namespace Engine

/-- The engine with another registry. -/
def withRegistry (g : Engine) (r : Registry) : Engine := { g with registry := r }

/-- With a restriction of a registry an expression comes out as with the registry itself, or a node
of it has a tag that the restriction does not know, and the error says so. When the restriction
knows all tags of the expression, it comes out the same. -/
theorem evaluate_withRegistry (g : Engine) {small large : Registry}
    (restriction : small.RestrictionOf large) (place : Nat) (e : Expression) (s : Session) :
    ((g.withRegistry small).evaluate place e s = (g.withRegistry large).evaluate place e s ∨
      ∃ d ∈ e.nodes, small.find? d.tag = none ∧
        (g.withRegistry small).evaluate place e s = .error (.unknownExpression d.tag)) ∧
    ((∀ d ∈ e.nodes, small.find? d.tag ≠ none) →
      (g.withRegistry small).evaluate place e s = (g.withRegistry large).evaluate place e s) := by
  have stops : Result.EqUnless
      (fun fault => ∃ d ∈ e.nodes, small.find? d.tag = none ∧ fault = .unknownExpression d.tag)
      ((g.withRegistry small).evaluate place e s) ((g.withRegistry large).evaluate place e s) := by
    refine evaluateAt_eqUnless (g := g.withRegistry small) (k := g.withRegistry large) rfl
      (fun _ => .refl _) (fun d hd => ?_) 1 place
    rcases restriction.find? d.tag with same | missing
    · exact .inl same
    · exact .inr ⟨missing, d, hd, missing, rfl⟩
  constructor
  · rcases stops with same | ⟨fault, ⟨d, hd, missing, rfl⟩, stopped⟩
    · exact .inl same
    · exact .inr ⟨d, hd, missing, stopped⟩
  · intro known
    refine stops.eq ?_
    rintro fault ⟨d, hd, missing, -⟩
    exact known d hd missing

/-- A registry of sums and written integers gives a sum of integers its value, but does not know
products. -/
theorem sum_withRegistry :
    let small := Registry.standard.restrict fun tag => tag = "sum" ∨ tag = "baseValue"
    let operand : Expression := ⟨"baseValue", [("baseType", "integer")], [], some "2"⟩
    let sum : Expression := ⟨"sum", [], [operand, operand], none⟩
    let product : Expression := ⟨"sum", [], [operand, ⟨"product", [], [operand], none⟩], none⟩
    small.RestrictionOf .standard ∧ (∀ d ∈ sum.nodes, small.find? d.tag ≠ none) ∧
      (standard.withRegistry small).evaluate 0 sum .empty = .ok (some (.integer 4)) ∧
      (standard.withRegistry small).evaluate 0 product .empty =
        .error (.unknownExpression "product") := by
  intro small operand sum product
  have restriction := Registry.standard.restrict_restrictionOf
    fun tag => tag = "sum" ∨ tag = "baseValue"
  have knowsSum : Registry.standard.find? "sum" ≠ none := by
    rw [Registry.find?_standard]
    decide
  have knowsValue : Registry.standard.find? "baseValue" ≠ none := by
    rw [Registry.find?_standard]
    decide
  have known : ∀ d ∈ sum.nodes, small.find? d.tag ≠ none := by
    simp [sum, operand, small, Expression.nodes, Expression.nodesOfAll, Registry.find?_restrict,
      knowsSum, knowsValue]
  have same := (evaluate_withRegistry standard restriction 0 sum .empty).2 known
  exact ⟨restriction, known, same.trans rfl, rfl⟩

end Engine

end ItemScoring
