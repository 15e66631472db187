import ItemScoring.Proofs.Order.Evaluation
import ItemScoring.Proofs.Running

/-!
# Strict runs do not depend on how collections are arranged

A strict assignment takes a value of the cardinality of the outcome, so a collection stays a
collection and is never put in an order. From reordered sessions a run of rules then leaves
reordered sessions, with the same summary or the same error. Without strictness this fails: a
collection that is assigned to a single outcome keeps the first scalar.
-/

set_option autoImplicit false

namespace ItemScoring

/-! ## Assignments -/

namespace Variable

/-- Scalars that are arranged differently in a collection only make reordered payloads. -/
theorem reshape_reordered {c : Cardinality} {ss ts : List Scalar} (perm : ss.Perm ts)
    (eq : c ≠ .multiple → ss = ts) : (reshape c ss).Reordered c (reshape c ts) := by
  by_cases multiple : c = .multiple
  · subst multiple
    exact Payload.reordered_ofScalars perm eq
  · rw [eq multiple]
    exact Payload.Reordered.refl c _

variable {v w : Variable} (h : v.Reordered w)
include h

/-- Reordered values of the cardinality of the variable are fitted to reordered payloads. -/
theorem fit_reordered {p q : Payload} (payload : p.Reordered v.cardinality q) :
    (v.fit v.cardinality p).Reordered v.cardinality (w.fit v.cardinality q) := by
  unfold fit
  rw [← h.cardinality, ← h.baseType]
  split
  · exact payload
  · cases v.baseType with
    | none => exact payload
    | some b =>
        refine reshape_reordered (payload.scalars_perm.map _) fun notMultiple => ?_
        rw [payload.scalars_eq notMultiple]

theorem accepts_reordered {x y : Value} (value : x.Reordered y) : v.accepts x = w.accepts y := by
  unfold accepts takes
  rw [h.cardinality, h.baseType, value.cardinality, value.baseType]

/-- A strict assignment of reordered values stores reordered payloads, or reports the same error. -/
theorem coerce_reordered {x y : Value} (value : x.Reordered y) :
    Result.Related (fun p q : Payload => p.Reordered v.cardinality q) (v.coerce true x)
      (w.coerce true y) := by
  unfold coerce
  rw [value.isNull, accepts_reordered h value]
  cases y.isNull with
  | true => exact Payload.Reordered.refl _ _
  | false =>
      cases accepted : w.accepts y with
      | false =>
          simp only [Bool.false_eq_true, if_false, Bool.not_false, Bool.and_self, if_true,
            Result.related_error, h.identifier, h.cardinality, h.baseType, value.cardinality,
            value.baseType]
      | true =>
          have shape : w.cardinality = y.cardinality := by
            have both : w.cardinality = y.cardinality ∧ w.takes y.baseType = true := by
              simpa [accepts] using accepted
            exact both.1
          have same : v.cardinality = x.cardinality := by
            rw [h.cardinality, shape, value.cardinality]
          have payload := value.payload
          rw [← same] at payload
          simp only [Bool.false_eq_true, if_false, Bool.not_true, Bool.and_false,
            Result.related_ok]
          rw [← same, ← shape, ← h.cardinality]
          exact fit_reordered h payload

theorem ofTarget_reordered (target : Option Scalar) : v.ofTarget target = w.ofTarget target := by
  unfold ofTarget
  rw [h.baseType]

end Variable

/-! ## Runs -/

namespace Engine

open Processing

variable {g : Engine} {s t : Session}

/-- Storing what reordered outcomes are assigned keeps sessions reordered. -/
theorem store_outcome_reordered (h : s.Reordered t) {identifier : String} {v : Variable}
    (found : s.find? identifier = some v) {p q : Payload} (payload : p.Reordered v.cardinality q) :
    (s.store identifier p).Reordered (t.store identifier q) := by
  obtain ⟨hv, name⟩ := Session.find?_eq_some.1 found
  refine h.store fun u hu same => ?_
  rw [Session.eq_of_mem_of_identifier hu hv (same.trans name.symm)]
  exact payload

/-- A strict assignment does the same in reordered sessions. -/
theorem assigned_reordered (standard : g.registry = .standard)
    (strict : g.config.strictOutcomeTypes = true) (h : s.Reordered t) (place : Nat)
    (identifier : String) {e : Expression} (regular : e.IgnoresOrder) :
    Result.Related (fun p q => (s.store identifier p).Reordered (t.store identifier q))
      (g.assigned place identifier e s) (g.assigned place identifier e t) := by
  unfold assigned Session.outcome
  rcases rel_cases (h.find? identifier) with ⟨left, right⟩ | ⟨v, w, left, right, both⟩
  · rw [left, right]
    exact Result.related_error.2 rfl
  rw [left, right]
  refine Result.Related.bind (R := Operand.Reordered)
    (evaluateAt_reordered standard h regular 1 place place) fun o o' value => ?_
  cases value with
  | none => exact store_outcome_reordered h left (Payload.Reordered.refl _ _)
  | @some x y value =>
      have payloads := Variable.coerce_reordered both value
      dsimp only
      rw [strict]
      generalize v.coerce true x = r at payloads ⊢
      generalize w.coerce true y = r' at payloads ⊢
      cases r with
      | ok p =>
          cases r' with
          | ok q => exact store_outcome_reordered h left payloads
          | error fault => exact payloads.elim
      | error fault =>
          cases r' with
          | ok q => exact payloads.elim
          | error fault' => exact payloads

theorem sourceNumber_reordered {o o' : Operand} (h : Operand.Reordered o o') :
    sourceNumber o = sourceNumber o' := by
  unfold sourceNumber
  cases h with
  | none => rfl
  | some related => rw [Option.bind_some, Option.bind_some, related.single?]

/-- A lookup does the same in reordered sessions. -/
theorem lookedUp_reordered (standard : g.registry = .standard) (h : s.Reordered t)
    (place : Nat) (identifier : String) {e : Expression} (regular : e.IgnoresOrder) :
    Result.Related (fun p q => (s.store identifier p).Reordered (t.store identifier q))
      (g.lookedUp place identifier e s) (g.lookedUp place identifier e t) := by
  unfold lookedUp Session.outcome
  rcases rel_cases (h.find? identifier) with ⟨left, right⟩ | ⟨v, w, left, right, both⟩
  · rw [left, right]
    exact Result.related_error.2 rfl
  rw [left, right]
  simp only [bind, Except.bind]
  rw [← both.lookupTable]
  cases v.lookupTable with
  | none => exact Result.related_error.2 rfl
  | some table =>
      refine Result.Related.bind (R := Operand.Reordered)
        (evaluateAt_reordered standard h regular 1 place place) fun o o' value => ?_
      rw [sourceNumber_reordered value, Variable.ofTarget_reordered both]
      exact store_outcome_reordered h left (Payload.Reordered.refl _ _)

/-- A condition holds in both sessions or in none, or has the same error. -/
theorem holds_reordered (standard : g.registry = .standard) (h : s.Reordered t) {e : Expression}
    (regular : e.IgnoresOrder) (place : Nat) : g.holds place e s = g.holds place e t := by
  have values := evaluateAt_reordered standard h regular 1 place place
  unfold holds evaluate
  generalize g.evaluateAt s 1 place e = r at values ⊢
  generalize g.evaluateAt t 1 place e = r' at values ⊢
  cases r with
  | ok o =>
      cases r' with
      | ok o' =>
          cases values with
          | none => rfl
          | some related =>
              simp only [bind, Except.bind, Operand.isNull, Option.elim_some, Option.bind_some,
                related.isNull, related.single?]
              rfl
      | error fault => exact values.elim
  | error fault =>
      cases r' with
      | ok o' => exact values.elim
      | error fault' =>
          obtain rfl : fault = fault' := values
          rfl

/-- From reordered sessions a strict run has the same summary or the same error and leaves reordered
sessions, and an expression has reordered values or the same error, at any two places. -/
theorem run_reordered (standard : g.registry = .standard)
    (strict : g.config.strictOutcomeTypes = true) (h : s.Reordered t) :
    (∀ rules : List Rule,
      (∀ d ∈ Rule.nodesOfAll rules, ∀ e ∈ d.expressions, e.IgnoresOrder) →
        Agree Session.Reordered (g.run rules s) (g.run rules t)) ∧
      ∀ e : Expression, e.IgnoresOrder → ∀ place place',
        Result.Reordered (g.evaluate place e s) (g.evaluate place' e t) := by
  refine ⟨fun rules regular => ?_, fun e regular => evaluateAt_reordered standard h regular 1⟩
  refine run_simulates (R := Session.Reordered) ?_ ?_ s t h
  · intro d hd assignment place
    cases d with
    | setOutcome identifier e =>
        have own : e.IgnoresOrder := regular _ hd e List.mem_cons_self
        unfold execute
        exact assign_simulates fun s t h =>
          assigned_reordered standard strict h place identifier own
    | lookupOutcome identifier e =>
        have own : e.IgnoresOrder := regular _ hd e List.mem_cons_self
        unfold execute
        exact assign_simulates fun s t h => lookedUp_reordered standard h place identifier own
    | condition _ _ _ => cases assignment
    | fragment _ => cases assignment
    | exit => cases assignment
  · intro d hd e he place s t h
    have own : e.IgnoresOrder := by
      cases d with
      | condition first further otherwise => exact regular _ hd e he
      | _ => cases he
    exact holds_reordered standard h own place

/-- A response that holds integers, and a score. -/
def responseAndScore (response : List Int64) : Session where
  declared :=
    [⟨"RESPONSE", .multiple, some .integer, .list (response.map .integer), .null, .null, none,
        none, none⟩,
      ⟨"SCORE", .single, some .integer, .null, .null, .null, none, none, none⟩]
  sorted := by
    refine List.pairwise_cons.2 ⟨?_, List.pairwise_singleton _ _⟩
    simp only [List.mem_singleton, forall_eq]
    decide

/-- The sum of a response does not depend on how the response is arranged. -/
theorem sum_reordered :
    let s := responseAndScore [1, 2]
    let t := responseAndScore [2, 1]
    let e : Expression :=
      ⟨"sum", [], [⟨"variable", [("identifier", "RESPONSE")], [], none⟩], none⟩
    s.Reordered t ∧ e.IgnoresOrder ∧
      Agree Session.Reordered (Engine.standard.run [.setOutcome "SCORE" e] s)
        (Engine.standard.run [.setOutcome "SCORE" e] t) ∧
      Result.Reordered (Engine.standard.evaluate 0 e s) (Engine.standard.evaluate 0 e t) := by
  intro s t e
  have related : s.Reordered t := by
    refine .cons ⟨rfl, rfl, rfl, ?_, rfl, rfl, rfl, rfl, rfl⟩ (.cons ?_ .nil)
    · exact ⟨_, rfl, List.Perm.swap _ _ _, fun notMultiple => absurd rfl notMultiple⟩
    · exact ⟨rfl, rfl, rfl, rfl, rfl, rfl, rfl, rfl, rfl⟩
  have regular : e.IgnoresOrder := by
    simp [e, Expression.IgnoresOrder, Expression.nodes, Expression.nodesOfAll,
      Registry.orderSensitive]
  have both := run_reordered (g := Engine.standard) rfl rfl related
  refine ⟨related, regular, both.1 _ ?_, both.2 e regular 0 0⟩
  intro d hd f hf
  obtain rfl : d = .setOutcome "SCORE" e := by
    simpa [Rule.nodesOfAll, Rule.nodes] using hd
  obtain rfl : f = e := by simpa [Rule.expressions] using hf
  exact regular

end Engine

end ItemScoring
