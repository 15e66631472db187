import ItemScoring.Proofs.Engines.Evaluation
import ItemScoring.Proofs.Engines.Running

/-!
# Strict and permissive assignments

Strictness only refuses assignments. A value of the shape of the outcome is stored in the same form
whether assignments are strict or not, and so is an integer where a number is declared, and NULL
everywhere. A strict run is therefore the permissive run, unless it ends with an assignment that is
refused because of the shape of its value.
-/

set_option autoImplicit false

namespace ItemScoring

/-- An assignment was refused: a value other than NULL has not the shape of the variable. -/
def Error.IsRefusal (fault : Error) : Prop :=
  ∃ (v : Variable) (w : Value), w.isNull = false ∧ v.accepts w = false ∧
    fault = .outcomeMismatch v.identifier v.cardinality v.baseType w.cardinality w.baseType

/-- A strict assignment stores what a permissive one stores, or refuses the value. -/
theorem Variable.coerce_eqUnless (v : Variable) (w : Value) :
    Result.EqUnless Error.IsRefusal (v.coerce true w) (v.coerce false w) := by
  unfold coerce
  cases empty : w.isNull with
  | true => exact .refl _
  | false =>
      cases accepted : v.accepts w with
      | true => exact .refl _
      | false => exact .inr ⟨_, ⟨v, w, empty, accepted, rfl⟩, rfl⟩

namespace Engine

open Processing

/-- The engine with strict or with permissive assignments. -/
def withStrictness (g : Engine) (strict : Bool) : Engine :=
  { g with config := { g.config with strictOutcomeTypes := strict } }

variable (g : Engine)

/-- Strictness is about assignments and does not count for the values of expressions. -/
theorem evaluate_withStrictness {F : Error → Prop} (place : Nat) (e : Expression) (s : Session) :
    Result.EqUnless F ((g.withStrictness true).evaluate place e s)
      ((g.withStrictness false).evaluate place e s) :=
  evaluateAt_eqUnless (g := g.withStrictness true) (k := g.withStrictness false) rfl
    (fun _ => .refl _) (fun _ _ => .inl rfl) 1 place

theorem execute_withStrictness {d : Rule} (assignment : d.isAssignment = true) (place : Nat) :
    EqUnless Error.IsRefusal ((g.withStrictness true).execute place d)
      ((g.withStrictness false).execute place d) := by
  cases d with
  | setOutcome identifier e =>
      refine assign_eqUnless fun s => ?_
      refine (Result.EqUnless.refl _).bind fun v => ?_
      refine (g.evaluate_withStrictness place e s).bind fun o => ?_
      cases o with
      | none => exact .refl _
      | some w => exact v.coerce_eqUnless w
  | lookupOutcome identifier e =>
      exact assign_eqUnless fun s => lookedUp_eqUnless (g.evaluate_withStrictness place e s)
  | condition _ _ _ => cases assignment
  | fragment _ => cases assignment
  | exit => cases assignment

/-- A strict run fails because it refuses an assignment, or it has the summary or the error of the
permissive run and leaves the same session. -/
theorem run_withStrictness (rules : List Rule) (s : Session) :
    (∃ (v : Variable) (w : Value) (t : Session), w.isNull = false ∧ v.accepts w = false ∧
      (g.withStrictness true).run rules s = .error
        (.outcomeMismatch v.identifier v.cardinality v.baseType w.cardinality w.baseType) t) ∨
    (g.withStrictness true).run rules s = (g.withStrictness false).run rules s := by
  have stops : EqUnless Error.IsRefusal ((g.withStrictness true).run rules)
      ((g.withStrictness false).run rules) :=
    run_eqUnless (fun d assignment => g.execute_withStrictness assignment)
      (fun place e s => holds_eqUnless (g.evaluate_withStrictness place e s)) rules
  rcases stops s with same | ⟨fault, t, ⟨v, w, filled, other, rfl⟩, stopped⟩
  · exact .inr same
  · exact .inl ⟨v, w, t, filled, other, stopped⟩

end Engine

end ItemScoring
