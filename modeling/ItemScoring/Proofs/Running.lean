import ItemScoring.Execution
import ItemScoring.Proofs.Results

/-!
# The steps of a run

A run changes the session by assignments only, and looks at it through conditions besides. So what
relates two sessions is kept by running the same rules on both, when every assignment among the
rules keeps it and every condition comes out the same, whatever the places at which they stand. An
invariant of one session is the case of a session that is related to itself.
-/

set_option autoImplicit false

namespace ItemScoring

/-! ## The rules inside rules -/

namespace Rule

mutual

/-- A rule and the rules inside it, each before those inside it. -/
def nodes : Rule → List Rule
  | .setOutcome identifier e => [.setOutcome identifier e]
  | .lookupOutcome identifier e => [.lookupOutcome identifier e]
  | .condition first further otherwise =>
    .condition first further otherwise ::
      (nodesOfBranch first ++ (nodesOfBranches further ++ nodesOfOtherwise otherwise))
  | .fragment rules => .fragment rules :: nodesOfAll rules
  | .exit => [.exit]
termination_by structural r => r

/-- The rules inside rules, and these themselves. -/
def nodesOfAll : List Rule → List Rule
  | [] => []
  | r :: rest => nodes r ++ nodesOfAll rest
termination_by structural rs => rs

def nodesOfBranch : Branch → List Rule
  | .mk _ rules => nodesOfAll rules
termination_by structural b => b

def nodesOfBranches : List Branch → List Rule
  | [] => []
  | b :: rest => nodesOfBranch b ++ nodesOfBranches rest
termination_by structural bs => bs

/-- The rules for the case that no condition holds. -/
def nodesOfOtherwise : Option (List Rule) → List Rule
  | none => []
  | some rules => nodesOfAll rules
termination_by structural rules => rules

end

/-- Whether a rule stores something itself. -/
def isAssignment : Rule → Bool
  | setOutcome _ _ => true
  | lookupOutcome _ _ => true
  | _ => false

/-- The conditions of the branches of a rule. -/
def conditions : Rule → List Expression
  | condition first further _ => first.condition :: further.map Branch.condition
  | _ => []

/-- The expressions of a rule, not counting those of rules inside it. -/
def expressions : Rule → List Expression
  | setOutcome _ e => [e]
  | lookupOutcome _ e => [e]
  | r => r.conditions

end Rule

/-! ## Work on two sessions -/

namespace Processing

variable {α β : Type} {R : Session → Session → Prop}

/-- The outcomes of work on two sessions: both yield the same or report the same error, and the
sessions that are left are related. -/
def Agree (R : Session → Session → Prop) :
    EStateM.Result Error Session α → EStateM.Result Error Session α → Prop
  | .ok a s, .ok b t => a = b ∧ R s t
  | .error e s, .error f t => e = f ∧ R s t
  | _, _ => False

/-- From related sessions, two pieces of work do the same and keep the sessions related. -/
def Simulates (R : Session → Session → Prop) (p q : Processing α) : Prop :=
  ∀ s t, R s t → Agree R (p s) (q t)

theorem simulates_pure (a : α) : Simulates R (pure a) (pure a) := fun _ _ h => ⟨rfl, h⟩

/-- Work in two steps does the same when both steps do. -/
theorem Simulates.bind {p q : Processing α} {f g : α → Processing β} (first : Simulates R p q)
    (second : ∀ a, Simulates R (f a) (g a)) : Simulates R (p >>= f) (q >>= g) := by
  intro s t h
  have steps := first s t h
  simp only [Bind.bind, EStateM.bind]
  cases hp : p s with
  | ok a s' =>
      cases hq : q t with
      | ok b t' =>
          rw [hp, hq] at steps
          obtain ⟨rfl, related⟩ := steps
          exact second a s' t' related
      | error e t' =>
          rw [hp, hq] at steps
          exact steps.elim
  | error e s' =>
      cases hq : q t with
      | ok b t' =>
          rw [hp, hq] at steps
          exact steps.elim
      | error f t' =>
          rw [hp, hq] at steps
          exact steps

/-- What is only looked up does the same when it comes out the same. -/
theorem simulates_ofSession {f g : Session → Result α} (h : ∀ s t, R s t → f s = g t) :
    Simulates R (ofSession f) (ofSession g) := by
  intro s t related
  unfold ofSession
  rw [← h s t related]
  cases f s with
  | ok a => exact ⟨rfl, related⟩
  | error e => exact ⟨rfl, related⟩

/-- The session that work leaves, whether it ends well or with an error. -/
def sessionAfter (p : Processing α) (s : Session) : Session :=
  match p s with
  | .ok _ t => t
  | .error _ t => t

/-- Work keeps an invariant of the session, whether it ends well or with an error. -/
def Keeps (I : Session → Prop) (p : Processing α) : Prop := ∀ s, I s → I (p.sessionAfter s)

/-- An invariant is a relation of sessions to themselves. -/
theorem keeps_iff {I : Session → Prop} {p : Processing α} :
    Keeps I p ↔ Simulates (fun s t => s = t ∧ I s) p p := by
  constructor
  · rintro keeps s _ ⟨rfl, h⟩
    have after := keeps s h
    unfold sessionAfter at after
    cases hp : p s with
    | ok a t =>
        rw [hp] at after
        exact ⟨rfl, rfl, after⟩
    | error e t =>
        rw [hp] at after
        exact ⟨rfl, rfl, after⟩
  · intro same s h
    have after := same s s ⟨rfl, h⟩
    unfold sessionAfter
    cases hp : p s with
    | ok a t =>
        rw [hp] at after
        exact after.2.2
    | error e t =>
        rw [hp] at after
        exact after.2.2

end Processing

/-! ## Running rules -/

namespace Engine

open Processing

variable {R : Session → Session → Prop} {g k : Engine}

/-- An assignment does the same when both payloads are errors, or storing them keeps the sessions
related. -/
theorem assign_simulates {identifier : String} {f h : Session → Result Payload}
    (step : ∀ s t, R s t →
      Result.Related (fun p q => R (s.store identifier p) (t.store identifier q)) (f s) (h t)) :
    Simulates R (assign identifier f) (assign identifier h) := by
  intro s t related
  have payloads := step s t related
  unfold assign ofSession
  simp only [Bind.bind, EStateM.bind]
  cases hf : f s with
  | ok p =>
      cases hh : h t with
      | ok q =>
          rw [hf, hh] at payloads
          exact ⟨rfl, payloads⟩
      | error e =>
          rw [hf, hh] at payloads
          exact payloads.elim
  | error e =>
      cases hh : h t with
      | ok q =>
          rw [hf, hh] at payloads
          exact payloads.elim
      | error e' =>
          rw [hf, hh] at payloads
          exact ⟨payloads, related⟩

/-- An assignment keeps an invariant when storing what it yields does. -/
theorem assign_keeps {I : Session → Prop} {identifier : String} {f : Session → Result Payload}
    (step : ∀ s, I s → (f s).Ensures fun p => I (s.store identifier p)) :
    Keeps I (assign identifier f) := by
  refine keeps_iff.2 (assign_simulates ?_)
  rintro s _ ⟨rfl, h⟩
  have stored := step s h
  cases hf : f s with
  | ok p => exact ⟨rfl, stored p hf⟩
  | error e => rfl

mutual

/-- A rule does the same on both sessions when the assignments and conditions inside it do, wherever
they stand. -/
theorem execute_simulates : ∀ (r : Rule) (place : Nat),
    (∀ d ∈ r.nodes, d.isAssignment = true → ∀ place,
      Simulates R (g.execute place d) (k.execute place d)) →
    (∀ d ∈ r.nodes, ∀ e ∈ d.conditions, ∀ place s t, R s t →
      g.holds place e s = k.holds place e t) →
    Simulates R (g.execute place r) (k.execute place r)
  | .setOutcome _ _, place, step, _ => step _ List.mem_cons_self rfl place
  | .lookupOutcome _ _, place, step, _ => step _ List.mem_cons_self rfl place
  | .condition first further otherwise, place, step, holds => by
      simp only [Rule.nodes, List.forall_mem_cons, List.forall_mem_append] at step holds
      obtain ⟨-, stepFirst, stepFurther, stepOtherwise⟩ := step
      obtain ⟨own, holdsFirst, holdsFurther, holdsOtherwise⟩ := holds
      simp only [Rule.conditions, List.forall_mem_cons, List.forall_mem_map] at own
      unfold execute
      refine Simulates.bind (executeBranch_simulates first place own.1 stepFirst holdsFirst)
        fun flow => ?_
      cases flow with
      | some flow => exact simulates_pure flow
      | none =>
          refine Simulates.bind
            (executeBranches_simulates further _ own.2 stepFurther holdsFurther) fun flow => ?_
          cases flow with
          | some flow => exact simulates_pure flow
          | none => exact executeOtherwise_simulates otherwise _ stepOtherwise holdsOtherwise
  | .fragment rules, place, step, holds => by
      simp only [Rule.nodes, List.forall_mem_cons] at step holds
      unfold execute
      exact executeAll_simulates rules place step.2 holds.2
  | .exit, _, _, _ => by
      unfold execute
      exact simulates_pure _
termination_by structural r => r

theorem executeAll_simulates : ∀ (rules : List Rule) (place : Nat),
    (∀ d ∈ Rule.nodesOfAll rules, d.isAssignment = true → ∀ place,
      Simulates R (g.execute place d) (k.execute place d)) →
    (∀ d ∈ Rule.nodesOfAll rules, ∀ e ∈ d.conditions, ∀ place s t, R s t →
      g.holds place e s = k.holds place e t) →
    Simulates R (g.executeAll place rules) (k.executeAll place rules)
  | [], _, _, _ => by
      unfold executeAll
      exact simulates_pure _
  | r :: rest, place, step, holds => by
      simp only [Rule.nodesOfAll, List.forall_mem_append] at step holds
      unfold executeAll
      refine Simulates.bind (execute_simulates r place step.1 holds.1) fun flow => ?_
      cases flow with
      | exit => exact simulates_pure _
      | proceed => exact executeAll_simulates rest _ step.2 holds.2
termination_by structural rules => rules

/-- A branch does the same on both sessions when its condition comes out the same and the
assignments and conditions inside it do the same. -/
theorem executeBranch_simulates : ∀ (b : Branch) (place : Nat),
    (∀ place s t, R s t → g.holds place b.condition s = k.holds place b.condition t) →
    (∀ d ∈ Rule.nodesOfBranch b, d.isAssignment = true → ∀ place,
      Simulates R (g.execute place d) (k.execute place d)) →
    (∀ d ∈ Rule.nodesOfBranch b, ∀ e ∈ d.conditions, ∀ place s t, R s t →
      g.holds place e s = k.holds place e t) →
    Simulates R (g.executeBranch place b) (k.executeBranch place b)
  | .mk condition rules, place, own, step, holds => by
      simp only [Rule.nodesOfBranch] at step holds
      unfold executeBranch
      refine Simulates.bind (simulates_ofSession (own place)) fun chosen => ?_
      cases chosen with
      | true =>
          exact Simulates.bind (executeAll_simulates rules _ step holds)
            fun flow => simulates_pure _
      | false => exact simulates_pure _
termination_by structural b => b

theorem executeBranches_simulates : ∀ (branches : List Branch) (place : Nat),
    (∀ b ∈ branches, ∀ place s t, R s t →
      g.holds place b.condition s = k.holds place b.condition t) →
    (∀ d ∈ Rule.nodesOfBranches branches, d.isAssignment = true → ∀ place,
      Simulates R (g.execute place d) (k.execute place d)) →
    (∀ d ∈ Rule.nodesOfBranches branches, ∀ e ∈ d.conditions, ∀ place s t, R s t →
      g.holds place e s = k.holds place e t) →
    Simulates R (g.executeBranches place branches) (k.executeBranches place branches)
  | [], _, _, _, _ => by
      unfold executeBranches
      exact simulates_pure _
  | b :: rest, place, own, step, holds => by
      simp only [Rule.nodesOfBranches, List.forall_mem_append] at step holds
      simp only [List.forall_mem_cons] at own
      unfold executeBranches
      refine Simulates.bind (executeBranch_simulates b place own.1 step.1 holds.1) fun flow => ?_
      cases flow with
      | some flow => exact simulates_pure _
      | none => exact executeBranches_simulates rest _ own.2 step.2 holds.2
termination_by structural branches => branches

theorem executeOtherwise_simulates : ∀ (otherwise : Option (List Rule)) (place : Nat),
    (∀ d ∈ Rule.nodesOfOtherwise otherwise, d.isAssignment = true → ∀ place,
      Simulates R (g.execute place d) (k.execute place d)) →
    (∀ d ∈ Rule.nodesOfOtherwise otherwise, ∀ e ∈ d.conditions, ∀ place s t, R s t →
      g.holds place e s = k.holds place e t) →
    Simulates R (g.executeOtherwise place otherwise) (k.executeOtherwise place otherwise)
  | none, _, _, _ => by
      unfold executeOtherwise
      exact simulates_pure _
  | some rules, place, step, holds => by
      simp only [Rule.nodesOfOtherwise] at step holds
      unfold executeOtherwise
      exact executeAll_simulates rules place step holds
termination_by structural otherwise => otherwise

end

/-- A run does the same on both sessions when the assignments and conditions among the rules do. -/
theorem run_simulates {rules : List Rule}
    (step : ∀ d ∈ Rule.nodesOfAll rules, d.isAssignment = true → ∀ place,
      Simulates R (g.execute place d) (k.execute place d))
    (holds : ∀ d ∈ Rule.nodesOfAll rules, ∀ e ∈ d.conditions, ∀ place s t, R s t →
      g.holds place e s = k.holds place e t) :
    Simulates R (g.run rules) (k.run rules) :=
  Simulates.bind (executeAll_simulates rules 0 step holds) fun _ => simulates_pure _

/-- A run keeps an invariant when every assignment among the rules does. -/
theorem run_keeps {I : Session → Prop} {rules : List Rule}
    (step : ∀ d ∈ Rule.nodesOfAll rules, d.isAssignment = true → ∀ place,
      Keeps I (g.execute place d)) :
    Keeps I (g.run rules) := by
  refine keeps_iff.2 (run_simulates ?_ ?_)
  · exact fun d hd assignment place => keeps_iff.1 (step d hd assignment place)
  · rintro d _ e _ place s _ ⟨rfl, -⟩
    rfl

end Engine

end ItemScoring
