import ItemScoring.Proofs.Running.Failure
import ItemScoring.Proofs.Typing.Declaration

/-!
# What a lookup stores

A lookup stores what it finds as a single scalar, made to fit the base type of the outcome, and it
stores NULL when it finds nothing. It does not ask whether assignments are strict, so an outcome of
another cardinality can end up with a single scalar in a strict run too.
-/

set_option autoImplicit false

namespace ItemScoring

namespace Variable

variable {v : Variable} {target : Option Scalar}

/-- What is looked up has the shape of a single value only, unless it is NULL. -/
theorem ofTarget_hasShape_iff {c : Cardinality} :
    (v.ofTarget target).HasShape c ↔ c = .single ∨ target = none := by
  cases target with
  | none => simp [ofTarget, Payload.HasShape]
  | some t => simp [ofTarget, Payload.HasShape]

/-- What is looked up fits the base type when its target is made to fit. -/
theorem ofTarget_fitsIn {b : BaseType} (base : v.baseType = some b)
    (fits : ∀ t, target = some t → (t.recast b).fits b = true) {x : Scalar}
    (hx : x ∈ (v.ofTarget target).scalars) : x.FitsIn v.baseType := by
  cases target with
  | none => cases hx
  | some t =>
      obtain rfl : x = t.recast b := by simpa [ofTarget, Payload.scalars, base] using hx
      exact ⟨b, base, fits t rfl⟩

end Variable

namespace Engine

variable {g : Engine} {place : Nat} {identifier : String} {e : Expression} {s t : Session}

/-- There is something to store when the outcome has a table and the expression has a value. -/
theorem lookedUp_eq_ok {p : Payload} :
    g.lookedUp place identifier e s = .ok p ↔
      ∃ v table o, s.find? identifier = some v ∧ v.lookupTable = some table ∧
        g.evaluate place e s = .ok o ∧ p = v.ofTarget (table.lookup (sourceNumber o)) := by
  unfold lookedUp
  constructor
  · intro h
    obtain ⟨v, found, h⟩ := Result.bind_eq_ok.1 h
    cases htable : v.lookupTable with
    | none =>
        rw [htable] at h
        cases h
    | some table =>
        rw [htable] at h
        obtain ⟨o, value, h⟩ := Result.bind_eq_ok.1 h
        cases h
        exact ⟨v, table, o, Session.outcome_eq_ok.1 found, htable, value, rfl⟩
  · rintro ⟨v, table, o, found, htable, value, rfl⟩
    refine Result.bind_eq_ok.2 ⟨v, Session.outcome_eq_ok.2 found, ?_⟩
    rw [htable]
    exact Result.bind_eq_ok.2 ⟨o, value, rfl⟩

/-- A lookup in a session that was read from JSON either fails or changes the value of its outcome
to scalars of the declared kind, whether assignments are strict or not. The value has the declared
shape when the outcome is declared single or nothing is found, and only then. -/
theorem execute_lookupOutcome_hasShape_iff {declarations : Json} {flow : Flow}
    (loaded : Session.ofJson declarations = .ok s)
    (h : g.execute place (.lookupOutcome identifier e) s = .ok flow t) :
    ∃ v table o p, s.find? identifier = some v ∧ v.lookupTable = some table ∧
      g.evaluate place e s = .ok o ∧ t.find? identifier = some { v with value := p } ∧
      (∀ x ∈ p.scalars, x.FitsIn v.baseType) ∧
      (p.HasShape v.cardinality ↔
        v.cardinality = .single ∨ table.lookup (sourceNumber o) = none) := by
  unfold execute at h
  obtain ⟨p, stored, -, rfl⟩ := assign_eq_ok.1 h
  obtain ⟨v, table, o, found, htable, value, rfl⟩ := lookedUp_eq_ok.1 stored
  have declared := (Session.find?_eq_some.1 found).1
  obtain ⟨b, base, targets⟩ := Session.exists_recast_of_mem_targets loaded declared htable
  refine ⟨v, table, o, _, found, htable, value, Session.find?_store found, fun x hx => ?_,
    Variable.ofTarget_hasShape_iff⟩
  refine Variable.ofTarget_fitsIn base (fun target ht => ?_) hx
  exact targets target (LookupTable.lookup_mem_targets ht)

/-! ## An outcome for grades -/

/-- The declaration of an outcome whose table gives everything an F. -/
def gradeDeclarations (cardinality : String) : Json :=
  .array [.object [
    ("baseType", .string "identifier"), ("cardinality", .string cardinality),
    ("identifier", .string "GRADES"),
    ("lookupTable", .object [
      ("defaultValue", .string "F"), ("entries", .array []), ("kind", .string "matchTable")])]]

/-- The session in which that outcome holds a payload. -/
def gradeSession (c : Cardinality) (p : Payload) : Session :=
  ⟨[{ identifier := "GRADES", cardinality := c, baseType := some .identifier, value := p,
      defaultValue := .null, correctResponse := .null, mapping := none, areaMapping := none,
      lookupTable := some (.exact (some (.identifier "F")) []) }], List.pairwise_singleton _ _⟩

/-- The rule that looks a grade up for NULL. -/
def gradeRule : Rule := .lookupOutcome "GRADES" ⟨"null", [], [], none⟩

theorem ofJson_gradeDeclarations (c : Cardinality) :
    Session.ofJson (gradeDeclarations c.name) = .ok (gradeSession c .null) := by
  cases c <;> rfl

/-- The F is stored as a single scalar, whatever the cardinality of the outcome is. -/
theorem execute_gradeRule (c : Cardinality) :
    standard.execute 0 gradeRule (gradeSession c .null) =
      .ok .proceed (gradeSession c (.single (.identifier "F"))) := by
  have known : Registry.standard.find? "null" = some (Registry.leafOf Leaf.nothing) := by
    rw [Registry.find?_standard]
    rfl
  have value : standard.evaluate 0 ⟨"null", [], [], none⟩ (gradeSession c .null) = .ok none :=
    evaluateAt_eq_ok.2 ⟨rfl, .inl ⟨_, known, rfl⟩⟩
  unfold gradeRule execute
  exact assign_eq_ok.2 ⟨_, lookedUp_eq_ok.2 ⟨_, _, none, rfl, rfl, value, rfl⟩, rfl, rfl⟩

/-- The F has the shape of a grade that is declared single. -/
theorem single_grade_hasShape :
    Session.ofJson (gradeDeclarations "single") = .ok (gradeSession .single .null) ∧
      standard.execute 0 gradeRule (gradeSession .single .null) =
        .ok .proceed (gradeSession .single (.single (.identifier "F"))) ∧
      (Payload.single (.identifier "F")).HasShape .single := by
  have loaded := ofJson_gradeDeclarations .single
  have ran := execute_gradeRule .single
  refine ⟨loaded, ran, ?_⟩
  obtain ⟨v, table, o, p, found, -, -, stored, -, shape⟩ :=
    execute_lookupOutcome_hasShape_iff loaded ran
  cases found
  cases stored
  exact shape.2 (.inl rfl)

/-- A strict run leaves the F as a single scalar in a grade that is declared multiple. -/
theorem multiple_grade_not_hasShape :
    standard.config.strictOutcomeTypes = true ∧
      Session.ofJson (gradeDeclarations "multiple") = .ok (gradeSession .multiple .null) ∧
      standard.execute 0 gradeRule (gradeSession .multiple .null) =
        .ok .proceed (gradeSession .multiple (.single (.identifier "F"))) ∧
      ¬ (Payload.single (.identifier "F")).HasShape .multiple := by
  refine ⟨rfl, ofJson_gradeDeclarations .multiple, execute_gradeRule .multiple, ?_⟩
  rintro ⟨⟩

end Engine

end ItemScoring
