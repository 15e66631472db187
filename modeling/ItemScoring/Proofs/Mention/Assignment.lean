import ItemScoring.Proofs.Mention.Evaluation
import ItemScoring.Proofs.Running.Choice

/-!
# Independent assignments

An assignment reads the variables that its expression mentions and the declaration of its outcome,
and it writes the value of its outcome. Two assignments are independent when their outcomes differ
and neither expression mentions the outcome of the other. Neither then sees what the other stores,
and they can change places.
-/

set_option autoImplicit false

namespace ItemScoring.Engine

variable {g : Engine} {s t : Session}

/-- What is stored in a variable that the expression does not mention makes no difference to it, and
neither does the place of the expression. -/
theorem evaluate_store (standard : g.registry = .standard) {e : Expression}
    (determined : e.IsDetermined) {identifier : String} (unmentioned : ¬ e.Mentions identifier)
    (p : Payload) (place place' : Nat) :
    g.evaluate place e (s.store identifier p) = g.evaluate place' e s := by
  refine evaluateAt_eq_of_sameReads standard determined ?_ 1 place place'
  intro d hd other reads
  refine Session.find?_store_of_ne ?_ p
  rintro rfl
  exact unmentioned (reads.mentions hd)

/-- What is stored in another variable, which the expression does not mention either, makes no
difference to an assignment. -/
theorem assigned_store (standard : g.registry = .standard) {e : Expression}
    (determined : e.IsDetermined) {outcome identifier : String} (different : outcome ≠ identifier)
    (unmentioned : ¬ e.Mentions identifier) (p : Payload) (place place' : Nat) :
    g.assigned place outcome e (s.store identifier p) = g.assigned place' outcome e s := by
  have declared : (s.store identifier p).outcome outcome = s.outcome outcome := by
    unfold Session.outcome
    rw [Session.find?_store_of_ne different]
  unfold assigned
  rw [declared, evaluate_store standard determined unmentioned p place place']

/-- An assignment ends well when its expression gives something to store. -/
theorem execute_setOutcome_eq_ok {place : Nat} {identifier : String} {e : Expression}
    {flow : Flow} :
    g.execute place (.setOutcome identifier e) s = .ok flow t ↔
      ∃ p, g.assigned place identifier e s = .ok p ∧ flow = .proceed ∧
        t = s.store identifier p := by
  unfold execute
  exact assign_eq_ok

/-- Two assignments end well when there is something to store for each, for the second after the
first has been stored. -/
theorem executeAll_two_eq_ok {place : Nat} {x y : String} {ex ey : Expression} {flow : Flow} :
    g.executeAll place [.setOutcome x ex, .setOutcome y ey] s = .ok flow t ↔
      ∃ p q, g.assigned place x ex s = .ok p ∧
        g.assigned (place + ex.size) y ey (s.store x p) = .ok q ∧
        flow = .proceed ∧ t = (s.store x p).store y q := by
  rw [executeAll_cons, executeAll_singleton, Processing.andThen_eq_ok]
  constructor
  · rintro (⟨first, -⟩ | ⟨u, first, second⟩)
    · obtain ⟨p, -, ⟨⟩, -⟩ := execute_setOutcome_eq_ok.1 first
    · obtain ⟨p, hp, -, rfl⟩ := execute_setOutcome_eq_ok.1 first
      obtain ⟨q, hq, ended, stored⟩ := execute_setOutcome_eq_ok.1 second
      exact ⟨p, q, hp, hq, ended, stored⟩
  · rintro ⟨p, q, hp, hq, ended, stored⟩
    exact .inr ⟨s.store x p, execute_setOutcome_eq_ok.2 ⟨p, hp, rfl, rfl⟩,
      execute_setOutcome_eq_ok.2 ⟨q, hq, ended, stored⟩⟩

/-- Two assignments with different outcomes, neither of which mentions the outcome of the other, end
well in either order, and in the same session, wherever they begin. -/
theorem executeAll_swap (standard : g.registry = .standard) {x y : String} (different : x ≠ y)
    {ex ey : Expression} (determinedX : ex.IsDetermined) (determinedY : ey.IsDetermined)
    (unmentionedX : ¬ ey.Mentions x) (unmentionedY : ¬ ex.Mentions y) {place : Nat} {flow : Flow}
    (h : g.executeAll place [.setOutcome x ex, .setOutcome y ey] s = .ok flow t) (place' : Nat) :
    g.executeAll place' [.setOutcome y ey, .setOutcome x ex] s = .ok flow t := by
  obtain ⟨p, q, hp, hq, ended, stored⟩ := executeAll_two_eq_ok.1 h
  have hq' : g.assigned place' y ey s = .ok q := by
    rw [← assigned_store standard determinedY different.symm unmentionedX p]
    exact hq
  have hp' : g.assigned (place' + ey.size) x ex (s.store y q) = .ok p := by
    rw [assigned_store standard determinedX different unmentionedY q]
    exact hp
  have order : t = (s.store y q).store x p :=
    stored.trans (Session.store_comm different.symm p q)
  exact executeAll_two_eq_ok.2 ⟨q, p, hq', hp', ended, order⟩

/-- A hint is the opposite of the first answer, and the second answer is the first: either can be
assigned before the other. -/
theorem hint_and_answer_swap :
    let s := answersAndHint
    let t := (s.store "HINT" (.single (.boolean false))).store "SECOND" (.single (.boolean true))
    let answer := Expression.leaf "variable" [("identifier", "FIRST")]
    let opposite : Expression := ⟨"not", [], [answer], none⟩
    opposite.IsDetermined ∧ answer.IsDetermined ∧
      ¬ answer.Mentions "HINT" ∧ ¬ opposite.Mentions "SECOND" ∧
      standard.executeAll 0 [.setOutcome "HINT" opposite, .setOutcome "SECOND" answer] s =
        .ok .proceed t ∧
      standard.executeAll 0 [.setOutcome "SECOND" answer, .setOutcome "HINT" opposite] s =
        .ok .proceed t := by
  intro s t answer opposite
  have determined : opposite.IsDetermined ∧ answer.IsDetermined := by
    simp [Expression.IsDetermined, opposite, answer, Expression.leaf, Expression.nodes,
      Expression.nodesOfAll, Registry.undetermined]
  have unmentioned : ¬ answer.Mentions "HINT" ∧ ¬ opposite.Mentions "SECOND" := by
    simp only [Expression.Mentions, opposite, answer, Expression.leaf, Expression.nodes,
      Expression.nodesOfAll]
    decide
  have answered : ∀ p, standard.evaluate 2 answer (s.store "HINT" p) = .ok (some (.boolean true)) :=
    fun p => evaluateAt_variable rfl (s.store "HINT" p) "FIRST"
  have opposed : standard.evaluate 0 opposite s = .ok (some (.boolean false)) := by
    have known : Registry.standard.find? "not" =
        some (Registry.operatorOf 1 (some 1) [.single] [.boolean] Logic.not) := by
      rw [Registry.find?_standard]
      rfl
    have operand : standard.evaluateAll s 2 1 [answer] = .ok [some (.boolean true)] :=
      evaluateAll_eq_ok.2 (.cons (evaluateAt_variable rfl _ _) .nil)
    exact evaluateAt_eq_ok.2 ⟨rfl, .inr ⟨_, _, _, known, operand, rfl, rfl⟩⟩
  have assignedHint : standard.assigned 0 "HINT" opposite s = .ok (.single (.boolean false)) := by
    unfold assigned
    rw [opposed]
    rfl
  have assignedSecond : standard.assigned 2 "SECOND" answer
      (s.store "HINT" (.single (.boolean false))) = .ok (.single (.boolean true)) := by
    unfold assigned
    rw [answered]
    rfl
  have ran : standard.executeAll 0 [.setOutcome "HINT" opposite, .setOutcome "SECOND" answer] s =
      .ok .proceed t := executeAll_two_eq_ok.2 ⟨_, _, assignedHint, assignedSecond, rfl, rfl⟩
  refine ⟨determined.1, determined.2, unmentioned.1, unmentioned.2, ran, ?_⟩
  exact executeAll_swap (g := standard) rfl (by decide) determined.1 determined.2 unmentioned.1
    unmentioned.2 ran 0

end ItemScoring.Engine
