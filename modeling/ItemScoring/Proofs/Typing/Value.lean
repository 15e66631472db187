import Mathlib.Data.List.Basic
import ItemScoring.Operand

/-!
# Well-formed values

A value is well-formed when its payload has the shape that its cardinality names and its scalars
are of kinds that its base type holds. NULL is well-formed in every shape, and the fields of a
record are well-formed themselves. A weaker property, `Value.Typed`, also allows the payload of a
collection in a value that is declared single. It is what all operators need of their operands.
Scalars that fit a base type are read as they are, and so are those whose texts cannot be read for
it; both are settled (`Scalar.recast_eq_self_iff`).
-/

set_option autoImplicit false

namespace ItemScoring

/-! ## Scalars -/

/-- There is a base type, and values of it hold scalars of this kind. -/
def Scalar.FitsIn (b : Option BaseType) (s : Scalar) : Prop := ∃ t, b = some t ∧ s.fits t = true

namespace Scalar

@[simp] theorem fitsIn_some {t : BaseType} {s : Scalar} :
    s.FitsIn (some t) ↔ s.fits t = true := by
  simp [FitsIn]

@[simp] theorem not_fitsIn_none {s : Scalar} : ¬ s.FitsIn none := by
  simp [FitsIn]

/-- What is read for a base type fits it. -/
theorem read_fits {b : BaseType} {raw : String} {s : Scalar} (h : read b raw = .ok s) :
    s.fits b = true := by
  cases b with
  | identifier | string | file | uri =>
      cases h
      rfl
  | integer =>
      cases h
      cases leadingInteger? raw <;> rfl
  | float =>
      cases h
      cases readPattern? raw <;> rfl
  | intOrIdentifier =>
      cases h
      unfold readIntOrIdentifier
      dsimp only
      split <;> rfl
  | boolean =>
      simp only [read, readBoolean] at h
      split at h
      · cases h
        rfl
      split at h
      · cases h
        rfl
      · cases h
  | point =>
      simp only [read, bind, Except.bind] at h
      split at h
      · cases h
      split at h
      · cases h
      split at h
      · cases h
      · cases h
        rfl
  | pair | directedPair | duration =>
      simp only [read, bind, Except.bind] at h
      split at h
      · cases h
      · cases h
        rfl

/-- A scalar that fits a base type is made to fit it by doing nothing. -/
theorem recast_of_fits {b : BaseType} {s : Scalar} (h : s.fits b = true) : s.recast b = s := by
  simp [recast, h]

/-- What a scalar becomes when it is made to fit a base type. -/
inductive Recasts (b : BaseType) (s : Scalar) : Scalar → Prop where
  | fitting (fits : s.fits b = true) : Recasts b s s
  | widened (x : Binary64) (float : b = .float) : Recasts b s (.float x)
  | readable {t : Scalar} (result : read b s.text = .ok t) : Recasts b s t
  | refused {fault : LoadError} (result : read b s.text = .error fault) : Recasts b s s

theorem recasts_recast (b : BaseType) (s : Scalar) : Recasts b s (s.recast b) := by
  by_cases fits : s.fits b = true
  · rw [recast_of_fits fits]
    exact .fitting fits
  · unfold recast
    rw [if_neg fits]
    split
    · exact .widened _ rfl
    · cases result : read b s.text with
      | ok t => exact .readable result
      | error fault => exact .refused result

/-- A scalar is settled for a base type when it is of a kind that values of the base type hold, or
when its text cannot be read for the base type. -/
inductive Settled (b : BaseType) (s : Scalar) : Prop where
  | fits (fits : s.fits b = true)
  | unreadable {fault : LoadError} (result : read b s.text = .error fault)

theorem settled_recast (b : BaseType) (s : Scalar) : (s.recast b).Settled b := by
  have recasts := recasts_recast b s
  generalize s.recast b = t at recasts
  cases recasts with
  | fitting fits => exact .fits fits
  | widened x float =>
      subst float
      exact .fits rfl
  | readable result => exact .fits (read_fits result)
  | refused result => exact .unreadable result

/-- Making a scalar fit does nothing exactly when the scalar is settled. -/
theorem recast_eq_self_iff {b : BaseType} {s : Scalar} : s.recast b = s ↔ s.Settled b := by
  constructor
  · intro same
    exact same ▸ settled_recast b s
  · rintro (fits | ⟨refused⟩)
    · exact recast_of_fits fits
    · have recasts := recasts_recast b s
      generalize s.recast b = t at recasts ⊢
      cases recasts with
      | fitting | refused => rfl
      | widened x float =>
          -- Every text is read for the floating-point numbers.
          subst float
          cases refused
      | readable result => cases refused.symm.trans result

/-- The scalar is settled for the base type, if there is one. -/
def SettledIn (b : Option BaseType) (s : Scalar) : Prop := ∀ t, b = some t → s.Settled t

theorem FitsIn.settledIn {b : Option BaseType} {s : Scalar} (h : s.FitsIn b) : s.SettledIn b := by
  rintro t rfl
  exact .fits (fitsIn_some.1 h)

/-- A number is made to fit the floating-point numbers. -/
theorem recast_float_fits {s : Scalar} (h : s.fits .integer = true) :
    (s.recast .float).fits .float = true := by
  cases s with
  | integer n => rfl
  | float x => rfl
  | _ => cases h

end Scalar

/-- The scalars of a payload are read as they are when all are settled. -/
theorem Payload.normalized_of_settledIn {c : Cardinality} {b : Option BaseType} {p : Payload}
    (settled : ∀ s ∈ p.scalars, s.SettledIn b) :
    p.normalized c b = if c = .multiple then Scalar.sort p.scalars else p.scalars := by
  have kept : b.elim p.scalars (fun t => p.scalars.map (Scalar.recast t)) = p.scalars := by
    cases b with
    | none => rfl
    | some t =>
        have same : ∀ s ∈ p.scalars, s.recast t = s := fun s hs =>
          Scalar.recast_eq_self_iff.2 (settled s hs t rfl)
        exact (List.map_congr_left same).trans (List.map_id _)
  unfold normalized
  rw [kept]

/-! ## Values -/

mutual

/-- A payload has the shape that a cardinality names, and its scalars fit a base type. -/
def Payload.WellFormed (c : Cardinality) (b : Option BaseType) : Payload → Prop
  | .null => True
  | .single s => c = .single ∧ s.FitsIn b
  | .list ss => c.isContainer = true ∧ ss ≠ [] ∧ ∀ s ∈ ss, s.FitsIn b
  | .record fields => c = .record ∧ fields ≠ [] ∧ Value.FieldsWellFormed fields

/-- The payload is well-formed for the declared shape. -/
def Value.WellFormed : Value → Prop
  | .mk c b p => p.WellFormed c b

def Value.FieldsWellFormed : List (String × Value) → Prop
  | [] => True
  | (_, field) :: rest => field.WellFormed ∧ Value.FieldsWellFormed rest

end

/-- A value whose scalars fit its base type: it is well-formed, or it is declared single and has the
payload of a collection. -/
def Value.Typed (v : Value) : Prop :=
  v.WellFormed ∨
    v.cardinality = .single ∧ ∃ ss, v.payload = .list ss ∧ ss ≠ [] ∧ ∀ s ∈ ss, s.FitsIn v.baseType

namespace Value

variable {v : Value}

@[simp] theorem wellFormed_mk {c : Cardinality} {b : Option BaseType} {p : Payload} :
    (Value.mk c b p).WellFormed ↔ p.WellFormed c b := by
  rw [WellFormed]

/-- A value is well-formed when its payload is, for the declared shape. -/
theorem wellFormed_iff : v.WellFormed ↔ v.payload.WellFormed v.cardinality v.baseType := by
  obtain ⟨c, b, p⟩ := v
  exact wellFormed_mk

theorem fieldsWellFormed_iff {fields : List (String × Value)} :
    FieldsWellFormed fields ↔ ∀ entry ∈ fields, entry.2.WellFormed := by
  induction fields with
  | nil => simp [FieldsWellFormed]
  | cons entry rest ih =>
      obtain ⟨name, field⟩ := entry
      rw [FieldsWellFormed, ih, List.forall_mem_cons]

@[simp] theorem wellFormed_null (c : Cardinality) (b : Option BaseType) :
    (null c b).WellFormed := by
  simp [null, Payload.WellFormed]

@[simp] theorem wellFormed_nullOf (b : BaseType) : (nullOf b).WellFormed := wellFormed_null _ _

@[simp] theorem wellFormed_single {b : BaseType} {s : Scalar} :
    (single b s).WellFormed ↔ s.fits b = true := by
  simp [single, Payload.WellFormed]

@[simp] theorem wellFormed_boolean (b : Bool) : (boolean b).WellFormed :=
  wellFormed_single.2 rfl

@[simp] theorem wellFormed_integer (n : Int64) : (integer n).WellFormed :=
  wellFormed_single.2 rfl

@[simp] theorem wellFormed_float (x : Float) : (float x).WellFormed :=
  wellFormed_single.2 rfl

/-- A collection of scalars that fit is well-formed when it is declared as one, or is empty. -/
theorem wellFormed_container {c : Cardinality} {b : BaseType} {ss : List Scalar}
    (fits : ∀ s ∈ ss, s.fits b = true) :
    (container c b ss).WellFormed ↔ ss = [] ∨ c.isContainer = true := by
  cases ss with
  | nil => simp [container, Payload.ofScalars, Payload.WellFormed]
  | cons s rest => simpa [container, Payload.ofScalars, Payload.WellFormed] using fun _ => fits

/-- A collection of scalars that fit is typed when it is not declared a record, or is empty. -/
theorem typed_container {c : Cardinality} {b : BaseType} {ss : List Scalar}
    (fits : ∀ s ∈ ss, s.fits b = true) (shape : ss = [] ∨ c ≠ .record) :
    (container c b ss).Typed := by
  by_cases formed : ss = [] ∨ c.isContainer = true
  · exact .inl ((wellFormed_container fits).2 formed)
  · obtain ⟨nonempty, notContainer⟩ := not_or.1 formed
    have single : c = .single := by
      cases c with
      | single => rfl
      | multiple | ordered => exact absurd rfl notContainer
      | record => exact (shape.resolve_left nonempty rfl).elim
    refine .inr ⟨single, ss, ?_, nonempty, fun s hs => ⟨b, rfl, fits s hs⟩⟩
    cases ss with
    | nil => exact absurd rfl nonempty
    | cons s rest => rfl

namespace Typed

/-- The scalars of a typed value fit its base type. -/
theorem fitsIn (typed : v.Typed) {s : Scalar} (h : s ∈ v.scalars) : s.FitsIn v.baseType := by
  obtain ⟨c, b, p⟩ := v
  rcases typed with formed | ⟨-, ss, hp, -, fits⟩
  · rw [wellFormed_mk] at formed
    cases p with
    | null => cases h
    | single t =>
        obtain rfl : s = t := by simpa [scalars, payload, Payload.scalars] using h
        exact formed.2
    | list ss => exact formed.2.2 s h
    | record fields => cases h
  · obtain rfl : p = .list ss := hp
    exact fits s h

theorem field (typed : v.Typed) {fields : List (String × Value)} (h : v.fields? = some fields) :
    ∀ entry ∈ fields, entry.2.WellFormed := by
  obtain ⟨c, b, p⟩ := v
  cases p with
  | record others =>
      obtain rfl : others = fields := by simpa [fields?, payload, Payload.fields?] using h
      rcases typed with formed | ⟨-, ss, hp, -⟩
      · rw [wellFormed_mk] at formed
        exact fieldsWellFormed_iff.1 formed.2.2
      · cases hp
  | _ => cases h

/-- A typed value that is declared a record holds no scalars. -/
theorem scalars_of_record (typed : v.Typed) (record : v.cardinality = .record) :
    v.scalars = [] := by
  obtain ⟨c, b, p⟩ := v
  obtain rfl : c = .record := record
  rcases typed with formed | ⟨single, -⟩
  · rw [wellFormed_mk] at formed
    cases p with
    | null | record fields => rfl
    | single s => cases formed.1
    | list ss => cases formed.1
  · cases single

end Typed

end Value

/-! ## Shapes -/

/-- A payload has the shape that a cardinality names, whatever the kinds of its scalars are: NULL
has every shape. -/
def Payload.HasShape (c : Cardinality) : Payload → Prop
  | .null => True
  | .single _ => c = .single
  | .list _ => c.isContainer = true
  | .record _ => c = .record

/-! ## Operands -/

namespace Operand

/-- Nothing, or a well-formed value. -/
def WellFormed (o : Operand) : Prop := ∀ v, o = some v → v.WellFormed

/-- Nothing, or a typed value. -/
def Typed (o : Operand) : Prop := ∀ v, o = some v → v.Typed

@[simp] theorem wellFormed_none : WellFormed none := fun _ h => nomatch h

@[simp] theorem wellFormed_some {v : Value} : WellFormed (some v) ↔ v.WellFormed := by
  simp [WellFormed]

@[simp] theorem typed_none : Typed none := fun _ h => nomatch h

@[simp] theorem typed_some {v : Value} : Typed (some v) ↔ v.Typed := by
  simp [Typed]

theorem WellFormed.typed {o : Operand} (h : o.WellFormed) : o.Typed := fun v hv => .inl (h v hv)

end Operand

end ItemScoring
