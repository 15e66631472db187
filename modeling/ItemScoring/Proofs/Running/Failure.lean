import ItemScoring.Proofs.Running.Choice

/-!
# Where a run fails

A rule that fails has stored nothing itself: an assignment stores only what it has computed, and a
condition only looks. So a run that fails stands at one rule, in the session that the assignments
before that rule have made, and would have ended there, without an error, had the rule been an end
of processing.
-/

set_option autoImplicit false

namespace ItemScoring

/-! ## Holes for a rule -/

/-- How rules stand inside a rule. -/
inductive Layer where
  /-- As the rules of a group. -/
  | fragment
  /-- As the rules of the first branch of a condition. -/
  | firstBranch (e : Expression) (further : List Branch) (otherwise : Option (List Rule))
  /-- As the rules of a further branch of a condition. -/
  | furtherBranch (first : Branch) (before : List Branch) (e : Expression) (after : List Branch)
    (otherwise : Option (List Rule))
  /-- As the rules for the case that no branch of a condition holds. -/
  | lastRules (first : Branch) (further : List Branch)

namespace Layer

/-- The rule that has the given rules inside it. -/
def wrap (rules : List Rule) : Layer → Rule
  | .fragment => .fragment rules
  | .firstBranch e further otherwise => .condition (.mk e rules) further otherwise
  | .furtherBranch first before e after otherwise =>
    .condition first (before ++ .mk e rules :: after) otherwise
  | .lastRules first further => .condition first further (some rules)

/-- The place of the rules inside a rule that begins at the given place. -/
def start (place : Nat) : Layer → Nat
  | .fragment => place
  | .firstBranch e _ _ => place + e.size
  | .furtherBranch first before e _ _ => place + Rule.placesOfBranches (first :: before) + e.size
  | .lastRules first further => place + Rule.placesOfBranches (first :: further)

end Layer

/-- A hole for one rule among rules, at any depth. -/
inductive Hole where
  /-- Before all others. -/
  | head (rest : List Rule)
  /-- Inside the rule that stands before all others. -/
  | inside (layer : Layer) (hole : Hole) (rest : List Rule)
  /-- After a rule. -/
  | after (r : Rule) (hole : Hole)

namespace Hole

/-- The rules that have the given rule in the hole. -/
def fill (d : Rule) : Hole → List Rule
  | head rest => d :: rest
  | inside layer hole rest => layer.wrap (hole.fill d) :: rest
  | after r hole => r :: hole.fill d

/-- The place of the hole, when the rules begin at the given place. -/
def start (place : Nat) : Hole → Nat
  | head _ => place
  | inside layer hole _ => hole.start (layer.start place)
  | after r hole => hole.start (place + r.places)

theorem length_fill (hole : Hole) (d d' : Rule) :
    (hole.fill d).length = (hole.fill d').length := by
  induction hole with
  | head rest => rfl
  | inside layer hole rest ih => rfl
  | after r hole ih =>
      rw [fill, fill, List.length_cons, List.length_cons, ih]

end Hole

namespace Engine

open Processing

variable {g : Engine}

/-! ## The rule that fails -/

/-- A rule that begins at a place fails in a session by itself, not by a rule inside it: what it
assigns cannot be computed, or the condition of a branch cannot be decided, after those of the
branches before it came out false. -/
inductive FailsAt (g : Engine) (s : Session) (place : Nat) (fault : Error) : Rule → Prop where
  | setOutcome {identifier : String} {e : Expression}
    (h : g.assigned place identifier e s = .error fault) :
    FailsAt g s place fault (.setOutcome identifier e)
  | lookupOutcome {identifier : String} {e : Expression}
    (h : g.lookedUp place identifier e s = .error fault) :
    FailsAt g s place fault (.lookupOutcome identifier e)
  | condition {first : Branch} {further : List Branch} {otherwise : Option (List Rule)}
    {before : List Branch} {b : Branch} {after : List Branch}
    (split : first :: further = before ++ b :: after) (skipped : g.NoneHolds s place before)
    (h : g.holds (place + Rule.placesOfBranches before) b.condition s = .error fault) :
    FailsAt g s place fault (.condition first further otherwise)

variable {s t : Session} {place : Nat} {fault : Error}

/-- An assignment that fails has nothing to assign, and leaves the session as it is. -/
theorem assign_eq_error {identifier : String} {payload : Session → Result Payload}
    (h : assign identifier payload s = .error fault t) : payload s = .error fault ∧ t = s := by
  rw [assign, ofSession_bind] at h
  cases hp : payload s with
  | ok p =>
      rw [hp] at h
      cases h
  | error e =>
      rw [hp] at h
      cases h
      exact ⟨rfl, rfl⟩

theorem execute_assignment_eq_error {d : Rule} (assignment : d.isAssignment = true)
    (h : g.execute place d s = .error fault t) : g.FailsAt s place fault d ∧ t = s := by
  cases d with
  | setOutcome identifier e =>
      obtain ⟨nothing, same⟩ := assign_eq_error h
      exact ⟨.setOutcome nothing, same⟩
  | lookupOutcome identifier e =>
      obtain ⟨nothing, same⟩ := assign_eq_error h
      exact ⟨.lookupOutcome nothing, same⟩
  | condition _ _ _ => cases assignment
  | fragment _ => cases assignment
  | exit => cases assignment

/-- Where a condition has chosen rules, others can stand, and they would be run instead. -/
theorem exists_layer_of_chosen {first : Branch} {further : List Branch}
    {otherwise : Option (List Rule)} {start : Nat} {rules : List Rule}
    (h : g.chosen place (first :: further) otherwise s = .ok (start, rules)) (filled : rules ≠ []) :
    rules ∈ (Rule.condition first further otherwise).bodies ∧
      ∃ layer : Layer, layer.wrap rules = .condition first further otherwise ∧
        layer.start place = start ∧
        ∀ others, g.execute place (layer.wrap others) s = g.executeAll start others s := by
  rcases chosen_eq_ok h with ⟨before, e, after, split, skipped, own, rfl⟩ | ⟨skipped, last, rfl⟩
  · have stands : Branch.mk e rules ∈ first :: further := by
      rw [split]
      exact List.mem_append_right before List.mem_cons_self
    refine ⟨Rule.mem_bodies_of_branch stands, ?_⟩
    have runs : ∀ others, g.chosen place (before ++ .mk e others :: after) otherwise s =
        .ok (place + Rule.placesOfBranches before + e.size, others) := by
      intro others
      rw [chosen_append otherwise skipped, chosen_of_holds own]
    cases before with
    | nil =>
        obtain ⟨rfl, rfl⟩ := List.cons.inj split
        exact ⟨.firstBranch e further otherwise, rfl, rfl,
          fun others => execute_condition_of_chosen (runs others)⟩
    | cons b before =>
        obtain ⟨rfl, rfl⟩ := List.cons.inj split
        exact ⟨.furtherBranch first before e after otherwise, rfl, rfl,
          fun others => execute_condition_of_chosen (runs others)⟩
  · cases otherwise with
    | none => exact absurd last.symm filled
    | some own =>
        obtain rfl : own = rules := last
        refine ⟨Rule.mem_bodies_of_otherwise rfl, .lastRules first further, rfl, rfl,
          fun others => ?_⟩
        refine execute_condition_of_chosen ?_
        rw [← List.append_nil (first :: further), chosen_append _ skipped, List.append_nil]
        rfl

/-! ## The place of the rule that fails -/

/-- Rules that fail have a rule among them, at some depth, that fails by itself in the session that
is left. With an end of processing in its place, they end there. -/
theorem executeAll_eq_error_of_forall {rules : List Rule}
    (each : ∀ r ∈ rules, ∀ {s t : Session} {place : Nat}, g.execute place r s = .error fault t →
      (g.FailsAt t place fault r ∧ t = s) ∨ ∃ (layer : Layer) (hole : Hole) (d : Rule),
        layer.wrap (hole.fill d) = r ∧ g.FailsAt t (hole.start (layer.start place)) fault d ∧
          g.execute place (layer.wrap (hole.fill .exit)) s = .ok .exit t)
    (h : g.executeAll place rules s = .error fault t) :
    ∃ (hole : Hole) (d : Rule), hole.fill d = rules ∧ g.FailsAt t (hole.start place) fault d ∧
      g.executeAll place (hole.fill .exit) s = .ok .exit t := by
  induction rules generalizing s place with
  | nil => cases h
  | cons r rest ih =>
      obtain ⟨first, others⟩ := List.forall_mem_cons.1 (fun r hr => @each r hr)
      -- Either this rule fails, or it leaves `u`, from where the rest fails.
      rcases andThen_eq_error h with stopped | ⟨u, passed, later⟩
      · rcases first stopped with ⟨own, rfl⟩ | ⟨layer, hole, d, rfl, own, ends⟩
        · exact ⟨.head rest, r, rfl, own, andThen_of_exit rfl⟩
        · exact ⟨.inside layer hole rest, d, rfl, own, andThen_of_exit ends⟩
      · obtain ⟨hole, d, rfl, own, ends⟩ := ih (fun r hr => others r hr) later
        exact ⟨.after r hole, d, rfl, own, (andThen_of_proceed passed).trans ends⟩

/-- A rule that fails does so by itself, or a rule inside it does. -/
theorem execute_eq_error {r : Rule} (h : g.execute place r s = .error fault t) :
    (g.FailsAt t place fault r ∧ t = s) ∨ ∃ (layer : Layer) (hole : Hole) (d : Rule),
      layer.wrap (hole.fill d) = r ∧ g.FailsAt t (hole.start (layer.start place)) fault d ∧
        g.execute place (layer.wrap (hole.fill .exit)) s = .ok .exit t := by
  induction r using Rule.induction generalizing s t place with
  | rule r ih =>
      cases r with
      | setOutcome identifier e =>
          obtain ⟨own, rfl⟩ := execute_assignment_eq_error rfl h
          exact .inl ⟨own, rfl⟩
      | lookupOutcome identifier e =>
          obtain ⟨own, rfl⟩ := execute_assignment_eq_error rfl h
          exact .inl ⟨own, rfl⟩
      | condition first further otherwise =>
          cases choice : g.chosen place (first :: further) otherwise s with
          | error undecided =>
              rw [execute_condition, ofSession_bind, choice] at h
              cases h
              obtain ⟨before, b, after, split, skipped, own⟩ := chosen_eq_error choice
              exact .inl ⟨.condition split skipped own, rfl⟩
          | ok chosen =>
              obtain ⟨start, rules⟩ := chosen
              rw [execute_condition_of_chosen choice] at h
              -- No rules at all cannot fail, so the condition has a hole for the failing rule.
              have filled : rules ≠ [] := by
                rintro rfl
                cases h
              obtain ⟨stands, layer, same, rfl, runs⟩ := exists_layer_of_chosen choice filled
              obtain ⟨hole, d, rfl, own, ends⟩ :=
                executeAll_eq_error_of_forall (fun r hr _ _ _ => ih rules stands r hr) h
              exact .inr ⟨layer, hole, d, same, own, (runs _).trans ends⟩
      | fragment rules =>
          obtain ⟨hole, d, rfl, own, ends⟩ :=
            executeAll_eq_error_of_forall (fun r hr _ _ _ => ih rules List.mem_cons_self r hr) h
          exact .inr ⟨.fragment, hole, d, rfl, own, ends⟩
      | exit => cases h

theorem executeAll_eq_error {rules : List Rule} (h : g.executeAll place rules s = .error fault t) :
    ∃ (hole : Hole) (d : Rule), hole.fill d = rules ∧ g.FailsAt t (hole.start place) fault d ∧
      g.executeAll place (hole.fill .exit) s = .ok .exit t :=
  executeAll_eq_error_of_forall (fun _ _ _ _ _ => execute_eq_error) h

/-- A run that fails has one rule, in some hole among the rules, that fails by itself in the session
that is left. With an end of processing in the hole, the run ends early in just that session. An
assignment that fails leaves the session as it is. -/
theorem run_eq_error (g : Engine) (rules : List Rule) (s : Session) :
    (∀ fault t, g.run rules s = .error fault t →
      ∃ (hole : Hole) (d : Rule), hole.fill d = rules ∧ g.FailsAt t (hole.start 0) fault d ∧
        g.run (hole.fill .exit) s = .ok ⟨rules.length, true⟩ t) ∧
      ∀ d : Rule, d.isAssignment = true → ∀ place fault t,
        g.execute place d s = .error fault t → t = s := by
  constructor
  · intro fault t h
    have failed : g.executeAll 0 rules s = .error fault t := by
      simp only [run, bind, EStateM.bind] at h
      cases hr : g.executeAll 0 rules s with
      | ok flow u =>
          rw [hr] at h
          cases h
      | error e u =>
          rw [hr] at h
          cases h
          rfl
    obtain ⟨hole, d, same, own, ends⟩ := executeAll_eq_error failed
    have count : (hole.fill .exit).length = rules.length := by
      rw [← same]
      exact hole.length_fill .exit d
    refine ⟨hole, d, same, own, ?_⟩
    simp only [run, bind, EStateM.bind, ends, count]
    rfl
  · intro d assignment place fault t h
    exact (execute_assignment_eq_error assignment h).2

/-- A score is assigned before a group fails because no total is declared. -/
theorem undeclared_total_error :
    let nothing : Expression := .leaf "null" []
    let total : Rule := .setOutcome "TOTAL" nothing
    let rules : List Rule := [.setOutcome "SCORE" nothing, .fragment [total]]
    let score (p : Payload) : Session :=
      ⟨[⟨"SCORE", .single, some .integer, p, .null, .null, none, none, none⟩],
        List.pairwise_singleton _ _⟩
    let s := score (.single (.integer 1))
    let t := score .null
    standard.run rules s = .error (.missingVariable "TOTAL") t ∧
      (∃ (hole : Hole) (d : Rule), hole.fill d = rules ∧
        standard.FailsAt t (hole.start 0) (.missingVariable "TOTAL") d ∧
          standard.run (hole.fill .exit) s = .ok ⟨2, true⟩ t) ∧
      total.isAssignment = true ∧
      standard.execute 1 total s = .error (.missingVariable "TOTAL") s := by
  intro nothing total rules score s t
  have failed : standard.run rules s = .error (.missingVariable "TOTAL") t := rfl
  have alone : ∃ u, standard.execute 1 total s = .error (.missingVariable "TOTAL") u := ⟨_, rfl⟩
  obtain ⟨u, alone⟩ := alone
  have same : u = s := (run_eq_error standard rules s).2 total rfl 1 _ u alone
  exact ⟨failed, (run_eq_error standard rules s).1 _ t failed, rfl, same ▸ alone⟩

end Engine

end ItemScoring
