import ItemScoring.Proofs.Running
import ItemScoring.Proofs.Session
import ItemScoring.Proofs.Typing.Evaluation

/-!
# Strict runs keep sessions well-formed

A strict assignment takes a value of the declared shape, or an integer where a number is declared.
Fitting it to the shape then gives a well-formed payload, even from the collections that a deletion
from a single value leaves. A lookup stores a target of the table as a single scalar, so tables
have to belong to variables that are declared single.
-/

set_option autoImplicit false

namespace ItemScoring

/-! ## Well-formed sessions -/

/-- The scalars that a table turns numbers into. -/
def LookupTable.targets : LookupTable → List Scalar
  | .exact defaultValue entries => defaultValue.toList ++ entries.map (·.target)
  | .interpolation defaultValue entries => defaultValue.toList ++ entries.map (·.target)

theorem LookupTable.lookup_mem_targets {table : LookupTable} {source : Option Float} {t : Scalar}
    (h : table.lookup source = some t) : t ∈ table.targets := by
  cases table with
  | exact defaultValue entries =>
      unfold lookup at h
      dsimp only at h
      split at h
      · next entry found =>
          cases h
          obtain ⟨x, -, found⟩ := Option.bind_eq_some_iff.1 found
          exact List.mem_append_right _ (List.mem_map_of_mem (List.mem_of_find?_eq_some found))
      · exact List.mem_append_left _ (Option.mem_toList.2 h)
  | interpolation defaultValue entries =>
      unfold lookup at h
      dsimp only at h
      split at h
      · next entry found =>
          cases h
          obtain ⟨x, -, found⟩ := Option.bind_eq_some_iff.1 found
          exact List.mem_append_right _ (List.mem_map_of_mem (List.mem_of_find?_eq_some found))
      · exact List.mem_append_left _ (Option.mem_toList.2 h)

/-- A variable holds well-formed values, has a base type unless it is a record, and its table turns
numbers into scalars that fit. -/
structure Variable.WellFormed (v : Variable) : Prop extends v.HoldsWellFormed where
  /-- Only records do without a base type. -/
  typed : v.cardinality ≠ .record → ∃ b, v.baseType = some b
  /-- The targets of the table fit. -/
  targets : ∀ table, v.lookupTable = some table → ∀ t ∈ table.targets, t.FitsIn v.baseType

namespace Session

variable {s : Session}

/-- All variables are well-formed. -/
def WellFormed (s : Session) : Prop := ∀ v ∈ s.declared, v.WellFormed

/-- Lookup tables belong to variables that are declared single. -/
def TablesAreSingle (s : Session) : Prop :=
  ∀ v ∈ s.declared, v.lookupTable ≠ none → v.cardinality = .single

theorem WellFormed.holds (formed : s.WellFormed) : s.HoldsWellFormed :=
  fun v hv => (formed v hv).toHoldsWellFormed

end Session

/-! ## Assignments -/

namespace Variable

/-- Scalars that fit are well-formed in every cardinality but that of records. -/
theorem reshape_wellFormed {c : Cardinality} (notRecord : c ≠ .record) {b : BaseType}
    {ss : List Scalar} (fits : ∀ s ∈ ss, s.fits b = true) :
    (reshape c ss).WellFormed c (some b) := by
  cases c with
  | record => exact absurd rfl notRecord
  | single =>
      cases ss with
      | nil => simp [reshape, Payload.WellFormed]
      | cons s rest => simpa [reshape, Payload.WellFormed] using fits s List.mem_cons_self
  | multiple | ordered =>
      cases ss with
      | nil => simp [reshape, Payload.ofScalars, Payload.WellFormed]
      | cons s rest =>
          simpa [reshape, Payload.ofScalars, Payload.WellFormed, Cardinality.isContainer] using fits

/-- A payload of a record is one whatever the base type is. -/
theorem wellFormed_record {b b' : Option BaseType} {p : Payload} (h : p.WellFormed .record b) :
    p.WellFormed .record b' := by
  cases p with
  | null => simp [Payload.WellFormed]
  | single s => cases h.1
  | list ss => cases h.1
  | record fields => exact h

variable {v : Variable} {w : Value}

/-- A scalar of a value that a variable takes is made to fit the base type of the variable. -/
theorem recast_fits {b : BaseType} (base : v.baseType = some b) (taken : v.takes w.baseType = true)
    {s : Scalar} (fits : s.FitsIn w.baseType) : (s.recast b).fits b = true := by
  obtain ⟨t, ht, fits⟩ := fits
  rw [takes, ht, base] at taken
  by_cases same : b = t
  · subst same
    rw [Scalar.recast_of_fits fits]
    exact fits
  · have widened : b = .float ∧ t = .integer := by simpa [same] using taken
    obtain ⟨rfl, rfl⟩ := widened
    exact Scalar.recast_float_fits fits

theorem fit_of_record {c : Cardinality} {p : Payload}
    (record : v.cardinality = .record ∨ c = .record) : v.fit c p = p := by
  unfold fit
  rw [if_pos record]

/-- Between shapes that are not records, the scalars are read again and arranged as declared. -/
theorem fit_eq_reshape {b : BaseType} (base : v.baseType = some b) {c : Cardinality} {p : Payload}
    (notRecord : v.cardinality ≠ .record) (notRecord' : c ≠ .record) :
    v.fit c p = reshape v.cardinality (p.scalars.map (Scalar.recast b)) := by
  unfold fit
  rw [if_neg (not_or.2 ⟨notRecord, notRecord'⟩), base]

/-- A typed value of an accepted shape is fitted to the shape of the variable. -/
theorem fit_wellFormed (base : v.cardinality ≠ .record → ∃ b, v.baseType = some b)
    (typed : w.Typed) (accepted : v.accepts w = true) :
    (v.fit w.cardinality w.payload).WellFormed v.cardinality v.baseType := by
  obtain ⟨shape, taken⟩ : v.cardinality = w.cardinality ∧ v.takes w.baseType = true := by
    simpa [accepts] using accepted
  by_cases record : v.cardinality = .record
  · have formed : w.WellFormed := by
      refine typed.resolve_right fun single => ?_
      rw [← shape, record] at single
      cases single.1
    rw [Value.wellFormed_iff, ← shape, record] at formed
    rw [fit_of_record (.inl record), record]
    exact wellFormed_record formed
  · obtain ⟨b, hb⟩ := base record
    have notRecord : w.cardinality ≠ .record := shape ▸ record
    rw [fit_eq_reshape hb record notRecord, hb]
    refine reshape_wellFormed record fun s hs => ?_
    obtain ⟨t, ht, rfl⟩ := List.mem_map.1 hs
    exact recast_fits hb taken (typed.fitsIn ht)

/-- A strict assignment of a typed value stores a well-formed payload. -/
theorem coerce_wellFormed (base : v.cardinality ≠ .record → ∃ b, v.baseType = some b)
    (typed : w.Typed) :
    (v.coerce true w).Ensures fun p => p.WellFormed v.cardinality v.baseType := by
  unfold coerce
  split
  · simp [Payload.WellFormed]
  split
  · exact Result.ensures_error
  · next accepted => exact Result.ensures_ok.2 (fit_wellFormed base typed (by simpa using accepted))

/-- A lookup stores a well-formed payload in a variable that is declared single. -/
theorem ofTarget_wellFormed (single : v.cardinality = .single) {t : Option Scalar}
    (fits : ∀ s, t = some s → s.FitsIn v.baseType) :
    (v.ofTarget t).WellFormed v.cardinality v.baseType := by
  cases t with
  | none => simp [ofTarget, Payload.WellFormed]
  | some s =>
      obtain ⟨b, hb, fit⟩ := fits s rfl
      simp [ofTarget, Payload.WellFormed, single, hb, Scalar.recast_of_fits fit, fit]

end Variable

/-! ## Runs -/

namespace Session

variable {s : Session}

/-- Storing a payload that is well-formed for the variable keeps the session well-formed, and the
tables where they are. -/
theorem store_wellFormed (formed : s.WellFormed) (tables : s.TablesAreSingle) {identifier : String}
    {v : Variable} (found : s.find? identifier = some v) {p : Payload}
    (payload : p.WellFormed v.cardinality v.baseType) :
    (s.store identifier p).WellFormed ∧ (s.store identifier p).TablesAreSingle := by
  obtain ⟨hv, rfl⟩ := find?_eq_some.1 found
  refine ⟨fun w hw => ?_, fun w hw => ?_⟩
  · obtain ⟨u, hu, rfl⟩ := mem_store.1 hw
    split
    · next same =>
        obtain rfl := eq_of_mem_of_identifier hu hv same
        exact { formed u hu with value := payload }
    · exact formed u hu
  · obtain ⟨u, hu, rfl⟩ := mem_store.1 hw
    have kept := tables u hu
    split
    · exact kept
    · exact kept

theorem outcome_eq_ok {identifier : String} {v : Variable} :
    s.outcome identifier = .ok v ↔ s.find? identifier = some v := by
  unfold outcome
  cases s.find? identifier with
  | none => simp
  | some w => simp

end Session

namespace Engine

open Processing

variable {g : Engine} {s : Session}

/-- What a strict assignment stores keeps the session well-formed. -/
theorem assigned_wellFormed (custom : g.CustomTyped)
    (strict : g.config.strictOutcomeTypes = true) (formed : s.WellFormed)
    (tables : s.TablesAreSingle) (place : Nat) (identifier : String) (e : Expression) :
    (g.assigned place identifier e s).Ensures fun p =>
      (s.store identifier p).WellFormed ∧ (s.store identifier p).TablesAreSingle := by
  refine Result.Ensures.bind fun v found => Result.Ensures.bind fun o value => ?_
  have hv := Session.outcome_eq_ok.1 found
  have typed : o.Typed := evaluateAt_typed_of_custom custom formed.holds value
  have base := (formed v (Session.find?_eq_some.1 hv).1).typed
  cases o with
  | none =>
      refine Result.ensures_pure.2 (Session.store_wellFormed formed tables hv ?_)
      simp [Payload.WellFormed]
  | some w =>
      rw [strict]
      intro p hp
      exact Session.store_wellFormed formed tables hv
        (Variable.coerce_wellFormed base (Operand.typed_some.1 typed) p hp)

/-- What a lookup stores keeps the session well-formed. -/
theorem lookedUp_wellFormed (formed : s.WellFormed) (tables : s.TablesAreSingle)
    (place : Nat) (identifier : String) (e : Expression) :
    (g.lookedUp place identifier e s).Ensures fun p =>
      (s.store identifier p).WellFormed ∧ (s.store identifier p).TablesAreSingle := by
  refine Result.Ensures.bind fun v found => ?_
  have hv := Session.outcome_eq_ok.1 found
  have mem := (Session.find?_eq_some.1 hv).1
  split
  · exact Result.ensures_error
  · next table htable =>
      refine Result.Ensures.bind fun o _ =>
        Result.ensures_pure.2 (Session.store_wellFormed formed tables hv ?_)
      refine Variable.ofTarget_wellFormed (tables v mem (by simp [htable])) fun t ht => ?_
      exact (formed v mem).targets table htable t (LookupTable.lookup_mem_targets ht)

/-- A strict run keeps the session well-formed, whether it ends well or with an error, and however
the choices in it come out. -/
theorem run_wellFormed (custom : g.CustomTyped)
    (strict : g.config.strictOutcomeTypes = true) (rules : List Rule) (formed : s.WellFormed)
    (tables : s.TablesAreSingle) : ((g.run rules).sessionAfter s).WellFormed := by
  refine (run_keeps (I := fun s => s.WellFormed ∧ s.TablesAreSingle) ?_ s ⟨formed, tables⟩).1
  intro d _ assignment place
  cases d with
  | setOutcome identifier e =>
      unfold execute
      exact assign_keeps fun s h => assigned_wellFormed custom strict h.1 h.2 place identifier e
  | lookupOutcome identifier e =>
      unfold execute
      exact assign_keeps fun s h => lookedUp_wellFormed h.1 h.2 place identifier e
  | condition _ _ _ => cases assignment
  | fragment _ => cases assignment
  | exit => cases assignment

/-- The operator of the host passes on what is typed, and all processors are standard ones. -/
theorem numbered_customTyped : numbered.CustomTyped where
  operator _ _ resolved _ typed := Host.numbering_keeps resolved typed
  processor tag _ found := .inl ⟨tag, found⟩

/-- Two outcomes that are declared single integers. -/
def scoreAndTotal (score total : Payload) : Session where
  declared :=
    [⟨"SCORE", .single, some .integer, score, .null, .null, none, none, none⟩,
      ⟨"TOTAL", .single, some .integer, total, .null, .null, none, none, none⟩]
  sorted := by
    refine List.pairwise_cons.2 ⟨?_, List.pairwise_singleton _ _⟩
    simp only [List.mem_singleton, forall_eq]
    decide

/-- Outcomes that are declared single integers stay such outcomes, although what is assigned to the
second is what an operator of the host makes of a deletion from a single value. All three dice show
different numbers. -/
theorem deletion_run_wellFormed :
    let s := scoreAndTotal .null .null
    let deletion : Expression := ⟨"delete", [], [.die, .die], none⟩
    let e : Expression := ⟨"customOperator", [("class", "first")], [deletion], none⟩
    let rules : List Rule := [.setOutcome "SCORE" .die, .setOutcome "TOTAL" e]
    let after := (numbered.run rules).sessionAfter s
    numbered.CustomTyped ∧ s.WellFormed ∧ s.TablesAreSingle ∧
      after = scoreAndTotal (.single (.integer 1)) (.single (.integer 5)) ∧ after.WellFormed := by
  intro s deletion e rules after
  have each : ∀ w ∈ s.declared, w.value = .null ∧ w.defaultValue = .null ∧
      w.correctResponse = .null ∧ w.cardinality = .single ∧ w.baseType = some .integer ∧
        w.lookupTable = none := by
    simp [s, scoreAndTotal]
  have formed : s.WellFormed := by
    intro w hw
    obtain ⟨value, default, correct, -, base, table⟩ := each w hw
    refine ⟨⟨?_, ?_, ?_⟩, fun _ => ⟨.integer, base⟩, fun _ h => ?_⟩
    · rw [value]
      trivial
    · rw [default]
      trivial
    · rw [correct]
      trivial
    · rw [table] at h
      cases h
  have tables : s.TablesAreSingle := by
    intro w hw _
    obtain ⟨-, -, -, single, -⟩ := each w hw
    exact single
  exact ⟨numbered_customTyped, formed, tables, rfl,
    run_wellFormed numbered_customTyped rfl _ formed tables⟩

end Engine

end ItemScoring
