import ItemScoring.Proofs.Rule
import ItemScoring.Proofs.Running

/-!
# What a condition chooses

A condition only looks at the session. It chooses one list of rules, or fails because one of its
branches cannot be decided, and then runs what it has chosen, from the place at which that stands.
So running a condition comes down to running a list of rules, and running a list of rules to running
its parts one after the other.
-/

set_option autoImplicit false

namespace ItemScoring

/-! ## Work in steps -/

namespace Processing

theorem ofSession_bind {α β : Type} (f : Session → Result α) (k : α → Processing β) (s : Session) :
    (ofSession f >>= k) s = match f s with
      | .ok a => k a s
      | .error e => .error e s := by
  simp only [bind, EStateM.bind, ofSession]
  cases f s <;> rfl

/-- One piece of work after another, which is left out when the first ends processing. -/
def andThen (p q : Processing Flow) : Processing Flow := do
  match ← p with
  | .exit => return .exit
  | .proceed => q

theorem andThen_assoc (p q r : Processing Flow) :
    (p.andThen q).andThen r = p.andThen (q.andThen r) := by
  unfold andThen
  rw [bind_assoc]
  congr 1
  funext flow
  cases flow with
  | exit => rfl
  | proceed => rfl

theorem andThen_proceed (p : Processing Flow) : p.andThen (pure .proceed) = p := by
  have same : (fun flow : Flow => match flow with
      | .exit => (pure .exit : Processing Flow)
      | .proceed => pure .proceed) = pure := by
    funext flow
    cases flow with
    | exit => rfl
    | proceed => rfl
  unfold andThen
  rw [same]
  exact bind_pure p

variable {p q : Processing Flow} {s t : Session}

theorem andThen_of_exit (h : p s = .ok .exit t) : p.andThen q s = .ok .exit t := by
  simp only [andThen, bind, EStateM.bind, h]
  rfl

theorem andThen_of_proceed (h : p s = .ok .proceed t) : p.andThen q s = q t := by
  simp only [andThen, bind, EStateM.bind, h]

/-- Work in two steps ends well in the first, which ends processing, or after it in the second. -/
theorem andThen_eq_ok {flow : Flow} : p.andThen q s = .ok flow t ↔
    (p s = .ok .exit t ∧ flow = .exit) ∨ ∃ u, p s = .ok .proceed u ∧ q u = .ok flow t := by
  cases hp : p s with
  | error e u =>
      have : p.andThen q s = .error e u := by simp only [andThen, bind, EStateM.bind, hp]
      rw [this]
      simp
  | ok first u =>
      cases first with
      | exit =>
          rw [andThen_of_exit hp]
          simp [and_comm, eq_comm]
      | proceed =>
          rw [andThen_of_proceed hp]
          simp

/-- Work in two steps fails in the first, or after it in the second. -/
theorem andThen_eq_error {e : Error} (h : p.andThen q s = .error e t) :
    p s = .error e t ∨ ∃ u, p s = .ok .proceed u ∧ q u = .error e t := by
  cases hp : p s with
  | error e' u =>
      simp only [andThen, bind, EStateM.bind, hp] at h
      exact .inl h
  | ok flow u =>
      cases flow with
      | exit =>
          rw [andThen_of_exit hp] at h
          cases h
      | proceed =>
          rw [andThen_of_proceed hp] at h
          exact .inr ⟨u, rfl, h⟩

end Processing

namespace Engine

open Processing

variable (g : Engine)

/-! ## Lists of rules -/

theorem executeAll_cons (place : Nat) (r : Rule) (rest : List Rule) :
    g.executeAll place (r :: rest) =
      (g.execute place r).andThen (g.executeAll (place + r.places) rest) := rfl

theorem executeAll_append (place : Nat) (before after : List Rule) :
    g.executeAll place (before ++ after) =
      (g.executeAll place before).andThen
        (g.executeAll (place + Rule.placesOfAll before) after) := by
  induction before generalizing place with
  | nil => rfl
  | cons r rest ih =>
      rw [List.cons_append, executeAll_cons, executeAll_cons, ih, andThen_assoc, Rule.placesOfAll,
        Nat.add_assoc]

theorem executeAll_singleton (place : Nat) (r : Rule) :
    g.executeAll place [r] = g.execute place r :=
  andThen_proceed (g.execute place r)

/-- An assignment ends well when there is something to store. -/
theorem assign_eq_ok {identifier : String} {payload : Session → Result Payload} {s t : Session}
    {flow : Flow} :
    assign identifier payload s = .ok flow t ↔
      ∃ p, payload s = .ok p ∧ flow = .proceed ∧ t = s.store identifier p := by
  rw [assign, Processing.ofSession_bind]
  constructor
  · intro h
    cases hp : payload s with
    | ok p =>
        rw [hp] at h
        cases h
        exact ⟨p, rfl, rfl, rfl⟩
    | error fault =>
        rw [hp] at h
        cases h
  · rintro ⟨p, hp, rfl, rfl⟩
    rw [hp]
    rfl

/-! ## Conditions -/

/-- The rules that a condition chooses, with their place: those of the first branch that holds, or
else the last ones, if there are any. It fails when a branch before that cannot be decided. -/
def chosen : Nat → List Branch → Option (List Rule) → Session → Result (Nat × List Rule)
  | place, [], otherwise, _ => .ok (place, otherwise.getD [])
  | place, b :: rest, otherwise, s => do
    if ← g.holds place b.condition s then return (place + b.condition.size, b.rules)
    else chosen (place + Rule.placesOfBranch b) rest otherwise s

/-- Run the rules that a condition has chosen. -/
def executeChosen (choice : Nat × List Rule) : Processing Flow :=
  g.executeAll choice.1 choice.2

theorem chosen_nil_bind (place : Nat) (otherwise : Option (List Rule)) :
    ofSession (g.chosen place [] otherwise) >>= g.executeChosen =
      g.executeAll place (otherwise.getD []) := rfl

theorem chosen_cons_bind (place : Nat) (b : Branch) (rest : List Branch)
    (otherwise : Option (List Rule)) :
    ofSession (g.chosen place (b :: rest) otherwise) >>= g.executeChosen = (do
      if ← ofSession (g.holds place b.condition) then
        g.executeAll (place + b.condition.size) b.rules
      else
        ofSession (g.chosen (place + Rule.placesOfBranch b) rest otherwise) >>=
          g.executeChosen) := by
  funext s
  rw [ofSession_bind, ofSession_bind, chosen]
  cases g.holds place b.condition s with
  | error e => rfl
  | ok holds =>
      cases holds with
      | true => rfl
      | false =>
          exact (ofSession_bind (g.chosen (place + Rule.placesOfBranch b) rest otherwise)
            g.executeChosen s).symm

theorem executeBranch_eq (place : Nat) (b : Branch) :
    g.executeBranch place b = (do
      if ← ofSession (g.holds place b.condition) then
        let flow ← g.executeAll (place + b.condition.size) b.rules
        return some flow
      else return none) := by
  cases b
  rfl

theorem executeOtherwise_eq (place : Nat) (otherwise : Option (List Rule)) :
    g.executeOtherwise place otherwise = g.executeAll place (otherwise.getD []) := by
  cases otherwise <;> rfl

/-- Running branches, and the last rules when none of them holds, is running what is chosen. -/
theorem executeBranches_bind (place : Nat) (branches : List Branch)
    (otherwise : Option (List Rule)) :
    (do
      match ← g.executeBranches place branches with
      | some flow => return flow
      | none => g.executeOtherwise (place + Rule.placesOfBranches branches) otherwise) =
      ofSession (g.chosen place branches otherwise) >>= g.executeChosen := by
  induction branches generalizing place with
  | nil => exact executeOtherwise_eq g place otherwise
  | cons b rest ih =>
      rw [chosen_cons_bind, ← ih, executeBranches, executeBranch_eq, Rule.placesOfBranches,
        ← Nat.add_assoc]
      simp only [bind_assoc]
      congr 1
      funext holds
      cases holds with
      | true => simp
      | false => simp

/-- A condition chooses a list of rules and runs it. -/
theorem execute_condition (place : Nat) (first : Branch) (further : List Branch)
    (otherwise : Option (List Rule)) :
    g.execute place (.condition first further otherwise) =
      ofSession (g.chosen place (first :: further) otherwise) >>= g.executeChosen := by
  rw [← executeBranches_bind, executeBranches, execute, bind_assoc, Rule.placesOfBranches,
    ← Nat.add_assoc]
  congr 1
  funext flow
  cases flow with
  | some flow => rfl
  | none => rfl

/-! ## What is chosen -/

/-- None of the branches holds, of which the first stands at the given place. -/
def NoneHolds (s : Session) : Nat → List Branch → Prop
  | _, [] => True
  | place, b :: rest =>
    g.holds place b.condition s = .ok false ∧ NoneHolds s (place + Rule.placesOfBranch b) rest

variable {g} {s : Session} {place : Nat}

theorem execute_condition_of_chosen {first : Branch} {further : List Branch}
    {otherwise : Option (List Rule)} {start : Nat} {rules : List Rule}
    (h : g.chosen place (first :: further) otherwise s = .ok (start, rules)) :
    g.execute place (.condition first further otherwise) s = g.executeAll start rules s := by
  rw [execute_condition, ofSession_bind, h]
  rfl

theorem chosen_append {before after : List Branch} (otherwise : Option (List Rule))
    (skipped : g.NoneHolds s place before) :
    g.chosen place (before ++ after) otherwise s =
      g.chosen (place + Rule.placesOfBranches before) after otherwise s := by
  induction before generalizing place with
  | nil => rfl
  | cons b rest ih =>
      obtain ⟨first, others⟩ := skipped
      rw [List.cons_append, chosen, first, Rule.placesOfBranches, ← Nat.add_assoc]
      exact ih others

theorem chosen_of_holds {e : Expression} (holds : g.holds place e s = .ok true) (rules : List Rule)
    (after : List Branch) (otherwise : Option (List Rule)) :
    g.chosen place (.mk e rules :: after) otherwise s = .ok (place + e.size, rules) := by
  rw [chosen, Branch.condition, holds]
  rfl

/-- What is chosen are the rules of a branch that holds and has none before it that does, or else,
when no branch holds, the last rules. -/
theorem chosen_eq_ok {branches : List Branch} {otherwise : Option (List Rule)} {start : Nat}
    {rules : List Rule} (h : g.chosen place branches otherwise s = .ok (start, rules)) :
    (∃ before e after, branches = before ++ .mk e rules :: after ∧ g.NoneHolds s place before ∧
      g.holds (place + Rule.placesOfBranches before) e s = .ok true ∧
        start = place + Rule.placesOfBranches before + e.size) ∨
    (g.NoneHolds s place branches ∧ otherwise.getD [] = rules ∧
      start = place + Rule.placesOfBranches branches) := by
  induction branches generalizing place with
  | nil =>
      cases h
      exact .inr ⟨trivial, rfl, rfl⟩
  | cons b rest ih =>
      obtain ⟨holds, decided, h⟩ := Result.bind_eq_ok.1 h
      cases holds with
      | true =>
          obtain ⟨e, own⟩ := b
          cases h
          exact .inl ⟨[], e, rest, rfl, trivial, decided, rfl⟩
      | false =>
          rcases ih h with ⟨before, e, after, rfl, skipped, own, rfl⟩ | ⟨skipped, last, rfl⟩
          · refine .inl ⟨b :: before, e, after, rfl, ⟨decided, skipped⟩, ?_⟩
            rw [Rule.placesOfBranches, ← Nat.add_assoc]
            exact ⟨own, rfl⟩
          · exact .inr ⟨⟨decided, skipped⟩, last, Nat.add_assoc _ _ _⟩

/-- Nothing is chosen when the condition of a branch cannot be decided, and none before it holds. -/
theorem chosen_eq_error {branches : List Branch} {otherwise : Option (List Rule)} {fault : Error}
    (h : g.chosen place branches otherwise s = .error fault) :
    ∃ before b after, branches = before ++ b :: after ∧ g.NoneHolds s place before ∧
      g.holds (place + Rule.placesOfBranches before) b.condition s = .error fault := by
  induction branches generalizing place with
  | nil => cases h
  | cons b rest ih =>
      cases decided : g.holds place b.condition s with
      | error e =>
          rw [chosen, decided] at h
          obtain rfl : e = fault := Except.error.inj h
          exact ⟨[], b, rest, rfl, trivial, decided⟩
      | ok holds =>
          rw [chosen, decided] at h
          cases holds with
          | true => cases h
          | false =>
              obtain ⟨before, c, after, rfl, skipped, own⟩ := ih h
              refine ⟨b :: before, c, after, rfl, ⟨decided, skipped⟩, ?_⟩
              rw [Rule.placesOfBranches, ← Nat.add_assoc]
              exact own

end Engine

end ItemScoring
