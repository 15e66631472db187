import ItemScoring.Proofs.Running.Failure

/-!
# One list of rules in two engines

When one engine stops with an error of its own where another goes on, that ends the run, and nothing
is done after it. So a run of the first engine is the run of the second, unless the first stops with
such an error, as soon as that holds of the assignments and of the conditions.
-/

set_option autoImplicit false

namespace ItemScoring

/-! ## Work that may stop with an error of its own -/

namespace Processing

variable {α β : Type}

/-- The first work does what the second does, unless it stops with an error of the given kind. -/
def EqUnless (F : Error → Prop) (p q : Processing α) : Prop :=
  ∀ s, p s = q s ∨ ∃ fault t, F fault ∧ p s = .error fault t

variable {F : Error → Prop}

theorem EqUnless.refl (p : Processing α) : EqUnless F p p := fun _ => .inl rfl

/-- Work in two steps comes out the same when both steps do. -/
theorem EqUnless.bind {p q : Processing α} {f h : α → Processing β} (first : EqUnless F p q)
    (second : ∀ a, EqUnless F (f a) (h a)) : EqUnless F (p >>= f) (q >>= h) := by
  intro s
  simp only [Bind.bind, EStateM.bind]
  rcases first s with same | ⟨fault, t, own, stopped⟩
  · rw [same]
    cases q s with
    | ok a t => exact second a t
    | error fault t => exact .inl rfl
  · rw [stopped]
    exact .inr ⟨fault, t, own, rfl⟩

theorem eqUnless_ofSession {f h : Session → Result α}
    (each : ∀ s, Result.EqUnless F (f s) (h s)) : EqUnless F (ofSession f) (ofSession h) := by
  intro s
  unfold ofSession
  rcases each s with same | ⟨fault, own, stopped⟩
  · rw [same]
    exact .inl rfl
  · rw [stopped]
    exact .inr ⟨fault, s, own, rfl⟩

end Processing

/-! ## Rules -/

namespace Engine

open Processing

variable {F : Error → Prop} {g k : Engine}

theorem assign_eqUnless {identifier : String} {f h : Session → Result Payload}
    (each : ∀ s, Result.EqUnless F (f s) (h s)) :
    EqUnless F (assign identifier f) (assign identifier h) :=
  (eqUnless_ofSession each).bind fun _ => .refl _

theorem holds_eqUnless {place : Nat} {e : Expression} {s : Session}
    (value : Result.EqUnless F (g.evaluate place e s) (k.evaluate place e s)) :
    Result.EqUnless F (g.holds place e s) (k.holds place e s) :=
  value.bind fun _ => .refl _

theorem lookedUp_eqUnless {place : Nat} {identifier : String} {e : Expression} {s : Session}
    (value : Result.EqUnless F (g.evaluate place e s) (k.evaluate place e s)) :
    Result.EqUnless F (g.lookedUp place identifier e s) (k.lookedUp place identifier e s) := by
  unfold lookedUp
  refine (Result.EqUnless.refl _).bind fun v => ?_
  cases v.lookupTable with
  | none => exact .refl _
  | some table => exact value.bind fun _ => .refl _

/-- A condition chooses the same rules in both engines. -/
theorem chosen_eqUnless {s : Session}
    (holds : ∀ place e, Result.EqUnless F (g.holds place e s) (k.holds place e s))
    (branches : List Branch) (otherwise : Option (List Rule)) (place : Nat) :
    Result.EqUnless F (g.chosen place branches otherwise s)
      (k.chosen place branches otherwise s) := by
  induction branches generalizing place with
  | nil => exact .refl _
  | cons b rest ih =>
      rw [chosen, chosen]
      refine (holds place b.condition).bind fun chosen => ?_
      cases chosen with
      | true => exact .refl _
      | false => exact ih _

theorem executeAll_eqUnless_of_forall {rules : List Rule}
    (each : ∀ d ∈ rules, ∀ place, EqUnless F (g.execute place d) (k.execute place d))
    (place : Nat) : EqUnless F (g.executeAll place rules) (k.executeAll place rules) := by
  induction rules generalizing place with
  | nil => exact .refl _
  | cons r rest ih =>
      obtain ⟨first, others⟩ := List.forall_mem_cons.1 each
      rw [executeAll_cons, executeAll_cons]
      refine (first place).bind fun flow => ?_
      cases flow with
      | exit => exact .refl _
      | proceed => exact ih others _

/-- A rule comes out the same in both engines when all assignments and conditions do, unless the
first engine stops with an error of its own. -/
theorem execute_eqUnless
    (assignments : ∀ d : Rule, d.isAssignment = true → ∀ place,
      EqUnless F (g.execute place d) (k.execute place d))
    (holds : ∀ place e s, Result.EqUnless F (g.holds place e s) (k.holds place e s)) (r : Rule)
    (place : Nat) : EqUnless F (g.execute place r) (k.execute place r) := by
  induction r using Rule.induction generalizing place with
  | rule r ih =>
      cases r with
      | setOutcome identifier e => exact assignments _ rfl place
      | lookupOutcome identifier e => exact assignments _ rfl place
      | condition first further otherwise =>
          intro s
          rw [execute_condition, execute_condition, ofSession_bind, ofSession_bind]
          rcases chosen_eqUnless (fun place e => holds place e s) (first :: further) otherwise
            place with same | ⟨fault, own, stopped⟩
          · rw [same]
            cases choice : k.chosen place (first :: further) otherwise s with
            | error fault => exact .inl rfl
            | ok chosen =>
                -- A chosen rule stands in a list inside the condition, where the induction applies.
                obtain ⟨start, rules⟩ := chosen
                refine executeAll_eqUnless_of_forall (fun d hd => ?_) start s
                have stands := (exists_layer_of_chosen choice (List.ne_nil_of_mem hd)).1
                exact ih rules stands d hd
          · rw [stopped]
            exact .inr ⟨fault, s, own, rfl⟩
      | fragment rules =>
          exact executeAll_eqUnless_of_forall (fun d hd => ih rules List.mem_cons_self d hd) place
      | exit => exact .refl _

/-- A run comes out the same in both engines when all assignments and conditions do, unless the
first engine stops with an error of its own. -/
theorem run_eqUnless
    (assignments : ∀ d : Rule, d.isAssignment = true → ∀ place,
      EqUnless F (g.execute place d) (k.execute place d))
    (holds : ∀ place e s, Result.EqUnless F (g.holds place e s) (k.holds place e s))
    (rules : List Rule) : EqUnless F (g.run rules) (k.run rules) :=
  (executeAll_eqUnless_of_forall (fun d _ => execute_eqUnless assignments holds d) 0).bind
    fun _ => .refl _

end Engine

end ItemScoring
