import ItemScoring.Proofs.Evaluation

/-!
# One expression in two engines

An engine may stop where another goes on: it may have a lower limit of the depth, or know fewer
tags. Otherwise two engines with one host evaluate an expression in the same way, so the first has
the value or the error of the second, unless it stops with an error of its own.
-/

set_option autoImplicit false

namespace ItemScoring.Engine

open Result

variable {F : Error → Prop} {g k : Engine} {s : Session}

theorem evaluateAll_eqUnless {depth : Nat} {es : List Expression}
    (each : ∀ e ∈ es, ∀ place,
      EqUnless F (g.evaluateAt s depth place e) (k.evaluateAt s depth place e)) (place : Nat) :
    EqUnless F (g.evaluateAll s depth place es) (k.evaluateAll s depth place es) := by
  induction es generalizing place with
  | nil => exact .refl _
  | cons e rest ih =>
      obtain ⟨first, others⟩ := List.forall_mem_cons.1 each
      rw [evaluateAll, evaluateAll]
      exact (first place).bind fun o => (ih others _).bind fun os => .refl _

/-- Two engines give an expression the same value or the same error, unless the first stops with an
error of its own: at its limit of the depth, or at a tag that it does not know. -/
theorem evaluateAt_eqUnless (host : g.host = k.host)
    (limits : ∀ depth, EqUnless F (g.config.checkDepth depth) (k.config.checkDepth depth))
    {e : Expression}
    (finds : ∀ d ∈ e.nodes, g.registry.find? d.tag = k.registry.find? d.tag ∨
      g.registry.find? d.tag = none ∧ F (.unknownExpression d.tag))
    (depth place : Nat) :
    EqUnless F (g.evaluateAt s depth place e) (k.evaluateAt s depth place e) := by
  induction e using Expression.induction generalizing depth place with
  | node e ih =>
      have children : EqUnless F (g.evaluateAll s (depth + 1) (place + 1) e.children)
          (k.evaluateAll s (depth + 1) (place + 1) e.children) :=
        evaluateAll_eqUnless
          (fun c hc => ih c hc (fun d hd => finds d (Expression.mem_nodes_of_child hc hd))
            (depth + 1)) _
      have own := finds e e.self_mem_nodes
      obtain ⟨tag, attributes, parts, literal⟩ := e
      rw [evaluateAt, evaluateAt]
      refine (limits depth).bind fun _ => ?_
      rcases own with same | ⟨missing, unknown⟩
      · simp only at same
        rw [same, host]
        cases k.registry.find? tag with
        | none => exact .refl _
        | some p =>
            cases p with
            | leaf evaluate => exact .refl _
            | operator contract process => exact children.bind fun operands => .refl _
      · simp only at missing
        rw [missing]
        exact .inr ⟨_, unknown, rfl⟩

end ItemScoring.Engine
