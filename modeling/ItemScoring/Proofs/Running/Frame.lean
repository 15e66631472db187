import ItemScoring.Proofs.Running
import ItemScoring.Proofs.Session

/-!
# What a run leaves alone

Storing a payload changes the value of one variable. Declarations are therefore the same after a run
as before it, and so is the value of every variable that no rule assigns to, however deep inside
conditions and groups the rules stand, and whether the run ends well, ends early or fails.
-/

set_option autoImplicit false

namespace ItemScoring

namespace Rule

/-- The outcome that a rule itself assigns to. -/
def target? : Rule → Option String
  | setOutcome identifier _ => some identifier
  | lookupOutcome identifier _ => some identifier
  | _ => none

/-- The outcomes that rules, or rules inside them, assign to. -/
def targets (rules : List Rule) : List String := (nodesOfAll rules).filterMap target?

/-- An assignment has an outcome that it assigns to. -/
theorem target?_of_isAssignment {d : Rule} (h : d.isAssignment = true) :
    ∃ identifier, d.target? = some identifier := by
  cases d with
  | setOutcome identifier e => exact ⟨identifier, rfl⟩
  | lookupOutcome identifier e => exact ⟨identifier, rfl⟩
  | condition _ _ _ => cases h
  | fragment _ => cases h
  | exit => cases h

/-- A rule among others that assigns to an outcome makes it one of their targets. -/
theorem mem_targets {rules : List Rule} {d : Rule} {identifier : String}
    (hd : d ∈ nodesOfAll rules) (h : d.target? = some identifier) : identifier ∈ targets rules :=
  List.mem_filterMap.2 ⟨d, hd, h⟩

end Rule

namespace Session

/-- The second session declares what the first declares, and only the values of the given variables
may differ. -/
structure Frame (targets : List String) (s t : Session) : Prop where
  /-- The identifiers are the same. -/
  identifiers : t.declared.map Variable.identifier = s.declared.map Variable.identifier
  /-- A variable changes in nothing but its value, and in that only if it is among those given. -/
  kept : ∀ v ∈ s.declared, ∃ p, { v with value := p } ∈ t.declared ∧
    (v.identifier ∉ targets → p = v.value)

variable {targets : List String} {s t : Session}

theorem Frame.refl (targets : List String) (s : Session) : Frame targets s s :=
  ⟨rfl, fun v hv => ⟨v.value, hv, fun _ => rfl⟩⟩

/-- Storing in one of the given variables stays within the frame. -/
theorem Frame.store (h : Frame targets s t) {identifier : String} (target : identifier ∈ targets)
    (p : Payload) : Frame targets s (t.store identifier p) := by
  constructor
  · have same : (t.store identifier p).declared.map Variable.identifier =
        t.declared.map Variable.identifier := by
      unfold Session.store
      rw [List.map_map]
      refine List.map_congr_left fun w _ => ?_
      simp only [Function.comp_apply]
      split <;> rfl
    exact same.trans h.identifiers
  · intro v hv
    obtain ⟨q, hq, unchanged⟩ := h.kept v hv
    by_cases same : v.identifier = identifier
    · refine ⟨p, mem_store.2 ⟨{ v with value := q }, hq, ?_⟩, fun other => ?_⟩
      · rw [if_pos same]
      · exact absurd (same ▸ target) other
    · refine ⟨q, mem_store.2 ⟨{ v with value := q }, hq, ?_⟩, unchanged⟩
      rw [if_neg same]

end Session

namespace Engine

open Processing

variable {g : Engine} {targets : List String} {s : Session}

/-- An assignment to one of the given variables stays within the frame. -/
theorem execute_frame {d : Rule} {identifier : String} (assigns : d.target? = some identifier)
    (target : identifier ∈ targets) (place : Nat) :
    Keeps (Session.Frame targets s) (g.execute place d) := by
  have step : ∀ payload : Session → Result Payload,
      Keeps (Session.Frame targets s) (assign identifier payload) := fun payload =>
    assign_keeps fun t frame p _ => frame.store target p
  cases d with
  | setOutcome name e =>
      obtain rfl : name = identifier := Option.some.inj assigns
      exact step (g.assigned place name e)
  | lookupOutcome name e =>
      obtain rfl : name = identifier := Option.some.inj assigns
      exact step (g.lookedUp place name e)
  | condition _ _ _ => cases assigns
  | fragment _ => cases assigns
  | exit => cases assigns

/-- After a run, whether it ends well, ends early or fails, every variable is declared as before,
and every variable that no rule assigns to has the value it had. -/
theorem run_frame (g : Engine) (rules : List Rule) (s : Session) :
    Session.Frame (Rule.targets rules) s ((g.run rules).sessionAfter s) := by
  refine run_keeps ?_ s (.refl _ s)
  intro d hd assignment
  obtain ⟨identifier, assigns⟩ := Rule.target?_of_isAssignment assignment
  exact execute_frame assigns (Rule.mem_targets hd assigns)

end Engine

end ItemScoring
