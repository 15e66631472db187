import ItemScoring.Proofs.Typing.Casting
import ItemScoring.Proofs.Typing.Session

/-!
# What permissive assignments store

An assignment that is not strict takes values of every shape. Where neither the variable nor the
value is a record, the scalars are arranged as the variable declares and are read again for its base
type, so the shape always fits. The scalars fit too, with two exceptions: a scalar whose text cannot
be read is kept as it is, and so is a floating-point number where an integer is declared. Records
are neither made nor taken apart: the payload of the value is stored when either is a record. What
is stored suits the variable apart from these exceptions, and only then (`suits_fit_iff`).
-/

set_option autoImplicit false

namespace ItemScoring

/-! ## Scalars -/

namespace Scalar

variable {b : BaseType} {s : Scalar}

/-- The scalars that cannot be read for a base type, and numbers among the integers. -/
def KeptAs (b : BaseType) (s : Scalar) : Prop :=
  (∃ fault, read b s.text = .error fault) ∨ b = .integer ∧ ∃ x, s = .float x

/-- A scalar that is made to fit a base type is stored, or it was not changed. -/
theorem recast_cases (b : BaseType) (s : Scalar) :
    (s.recast b).StoredAs b ∨ s.recast b = s ∧ s.KeptAs b := by
  have recasts := recasts_recast b s
  generalize s.recast b = t at recasts ⊢
  cases recasts with
  | fitting fits =>
      by_cases number : b = .integer ∧ ∃ x, s = .float x
      · exact .inr ⟨rfl, .inr number⟩
      · left
        refine storedAs_iff.2 ⟨fits, fun x integer float => ?_⟩
        exact absurd ⟨integer, x, float⟩ number
  | widened x float =>
      subst float
      exact .inl (.float x)
  | readable result => exact .inl (storedAs_of_read result)
  | @refused fault result => exact .inr ⟨rfl, .inl ⟨fault, result⟩⟩

theorem recast_of_keptAs (kept : s.KeptAs b) : s.recast b = s := by
  by_cases fits : s.fits b = true
  · exact recast_of_fits fits
  · rcases kept with ⟨fault, refused⟩ | ⟨rfl, x, rfl⟩
    · unfold recast
      rw [if_neg fits]
      split
      · cases refused
      · rw [refused]
    · exact absurd rfl fits

/-- A scalar is made to be stored for a base type, unless it is kept and was not. -/
theorem storedAs_recast_iff : (s.recast b).StoredAs b ↔ (s.KeptAs b → s.StoredAs b) := by
  constructor
  · intro stored kept
    rwa [recast_of_keptAs kept] at stored
  · intro stores
    rcases recast_cases b s with stored | ⟨same, kept⟩
    · exact stored
    · rw [same]
      exact stores kept

end Scalar

/-! ## Payloads -/

/-- A payload that is not NULL does not have the shape of a record and another one. -/
theorem Payload.record_iff_of_hasShape {c d : Cardinality} {p : Payload} (filled : p.isNull = false)
    (first : p.HasShape c) (second : p.HasShape d) : c = .record ↔ d = .record := by
  have container {e : Cardinality} (shape : e.isContainer = true) : e ≠ .record := by
    rintro rfl
    cases shape
  cases p with
  | null => cases filled
  | single s =>
      obtain rfl : c = .single := first
      obtain rfl : d = .single := second
      rfl
  | list ss => exact ⟨fun h => absurd h (container first), fun h => absurd h (container second)⟩
  | record fields => exact ⟨fun _ => second, fun _ => first⟩

theorem Payload.WellFormed.hasShape {c : Cardinality} {b : Option BaseType} {p : Payload}
    (formed : p.WellFormed c b) : p.HasShape c := by
  cases p with
  | null => trivial
  | single s => exact formed.1
  | list ss => exact formed.1
  | record fields => exact formed.1

namespace Value

variable {w : Value}

/-- A value that is neither NULL nor a record holds scalars. -/
theorem scalars_ne_nil (formed : w.WellFormed) (notRecord : w.cardinality ≠ .record)
    (filled : w.isNull = false) : w.scalars ≠ [] := by
  obtain ⟨c, b, p⟩ := w
  rw [wellFormed_mk] at formed
  cases p with
  | null => cases filled
  | single s => exact List.cons_ne_nil s []
  | list ss => exact formed.2.1
  | record fields => exact absurd formed.1 notRecord

end Value

namespace Variable

variable {v : Variable} {w : Value}

theorem reshape_hasShape {c : Cardinality} (notRecord : c ≠ .record) (ss : List Scalar) :
    (reshape c ss).HasShape c := by
  cases c with
  | record => exact absurd rfl notRecord
  | single => cases ss <;> trivial
  | multiple | ordered => cases ss <;> trivial

theorem isNull_reshape {c : Cardinality} {ss : List Scalar} (nonempty : ss ≠ []) :
    (reshape c ss).isNull = false := by
  cases ss with
  | nil => exact absurd rfl nonempty
  | cons s rest => cases c <;> rfl

/-- The scalars that a cardinality has room for: a single value keeps the first. -/
def roomFor (c : Cardinality) (ss : List Scalar) : List Scalar :=
  if c = .single then ss.take 1 else ss

theorem scalars_reshape (c : Cardinality) (ss : List Scalar) :
    (reshape c ss).scalars = roomFor c ss := by
  cases ss with
  | nil => cases c <;> rfl
  | cons first rest => cases c <;> rfl

theorem roomFor_map (c : Cardinality) (f : Scalar → Scalar) (ss : List Scalar) :
    roomFor c (ss.map f) = (roomFor c ss).map f := by
  unfold roomFor
  split
  · exact List.map_take.symm
  · rfl

theorem mem_of_mem_roomFor {c : Cardinality} {ss : List Scalar} {s : Scalar}
    (h : s ∈ roomFor c ss) : s ∈ ss := by
  unfold roomFor at h
  split at h
  · exact List.mem_of_mem_take h
  · exact h

/-! ## Assignments -/

/-- The scalars of a payload that is fitted to a variable are stored by its base type, or were there
before and are kept. -/
theorem mem_fit (notRecord : v.cardinality ≠ .record) {b : BaseType} (base : v.baseType = some b)
    (formed : w.WellFormed) {s : Scalar} (h : s ∈ (v.fit w.cardinality w.payload).scalars) :
    s.StoredAs b ∨ s ∈ w.scalars ∧ s.KeptAs b := by
  by_cases record : w.cardinality = .record
  · rw [fit_of_record (.inr record)] at h
    have empty : w.payload.scalars = [] := Value.Typed.scalars_of_record (.inl formed) record
    rw [empty] at h
    cases h
  · rw [fit_eq_reshape base notRecord record] at h
    rw [scalars_reshape] at h
    obtain ⟨t, ht, rfl⟩ := List.mem_map.1 (mem_of_mem_roomFor h)
    rcases Scalar.recast_cases b t with stored | ⟨same, kept⟩
    · exact .inl stored
    · rw [same]
      exact .inr ⟨ht, kept⟩

theorem fit_hasShape (base : v.cardinality ≠ .record → ∃ b, v.baseType = some b)
    (formed : w.WellFormed) (both : v.cardinality = .record ↔ w.cardinality = .record) :
    (v.fit w.cardinality w.payload).HasShape v.cardinality := by
  by_cases record : v.cardinality = .record
  · rw [fit_of_record (.inl record), record, ← both.1 record]
    exact (Value.wellFormed_iff.1 formed).hasShape
  · obtain ⟨b, hb⟩ := base record
    rw [fit_eq_reshape hb record (mt both.2 record)]
    exact reshape_hasShape record _

theorem fit_null (v : Variable) (c : Cardinality) : v.fit c .null = .null := by
  by_cases record : v.cardinality = .record ∨ c = .record
  · exact fit_of_record record
  · obtain ⟨notRecord, notRecord'⟩ := not_or.1 record
    cases base : v.baseType with
    | none => simp [fit, record, base]
    | some b =>
        rw [fit_eq_reshape base notRecord notRecord']
        cases v.cardinality <;> rfl

theorem isNull_fit (base : v.cardinality ≠ .record → ∃ b, v.baseType = some b)
    (formed : w.WellFormed) : (v.fit w.cardinality w.payload).isNull = w.isNull := by
  by_cases record : v.cardinality = .record ∨ w.cardinality = .record
  · rw [fit_of_record record]
    rfl
  · obtain ⟨notRecord, notRecord'⟩ := not_or.1 record
    obtain ⟨b, hb⟩ := base notRecord
    cases filled : w.isNull with
    | true =>
        rw [Value.payload_of_isNull filled, fit_null]
        rfl
    | false =>
        rw [fit_eq_reshape hb notRecord notRecord']
        refine isNull_reshape fun empty => ?_
        exact Value.scalars_ne_nil formed notRecord' filled (List.map_eq_nil_iff.1 empty)

/-- An assignment that is not strict never fails. -/
theorem coerce_false (v : Variable) (w : Value) :
    v.coerce false w = .ok (v.fit w.cardinality w.payload) := by
  unfold coerce
  by_cases null : w.isNull = true
  · rw [if_pos null, Value.payload_of_isNull null, fit_null]
  · rw [if_neg null]
    rfl

/-- A payload has the shape of a variable, and its base type stores the scalars. -/
def Suits (v : Variable) (p : Payload) : Prop :=
  p.HasShape v.cardinality ∧
    (v.cardinality ≠ .record → ∀ b, v.baseType = some b → ∀ s ∈ p.scalars, s.StoredAs b)

/-- What is stored suits the variable if both or neither of it and the value are records and no
scalar is kept that the base type does not store, and only then. -/
theorem suits_fit_iff (base : v.cardinality ≠ .record → ∃ b, v.baseType = some b)
    (formed : w.WellFormed) (filled : w.isNull = false) :
    v.Suits (v.fit w.cardinality w.payload) ↔
      (v.cardinality = .record ↔ w.cardinality = .record) ∧
        (v.cardinality ≠ .record → ∀ b, v.baseType = some b →
          ∀ s ∈ roomFor v.cardinality w.scalars, s.KeptAs b → s.StoredAs b) := by
  by_cases both : v.cardinality = .record ↔ w.cardinality = .record
  · have shape := fit_hasShape base formed both
    unfold Suits
    rw [and_iff_right shape, and_iff_right both]
    refine forall_congr' fun notRecord => forall_congr' fun b => forall_congr' fun hb => ?_
    rw [fit_eq_reshape hb notRecord (mt both.2 notRecord), scalars_reshape, roomFor_map,
      List.forall_mem_map]
    exact forall₂_congr fun s _ => Scalar.storedAs_recast_iff
  · have kept : v.fit w.cardinality w.payload = w.payload := by
      refine fit_of_record ?_
      by_contra neither
      obtain ⟨notRecord, notRecord'⟩ := not_or.1 neither
      exact both ⟨fun h => absurd h notRecord, fun h => absurd h notRecord'⟩
    rw [kept]
    have shape := (Value.wellFormed_iff.1 formed).hasShape
    exact ⟨fun suits => absurd (Payload.record_iff_of_hasShape filled suits.1 shape) both,
      fun suits => absurd suits.1 both⟩

/-- What an assignment that is not strict stores. NULL stays NULL, and nothing else becomes NULL.
The payload is kept when the variable or the value is a record, and it has the declared shape when
both or neither are. Scalars that the base type does not store are kept ones of the value. A payload
that is not NULL suits the variable unless only one of the two is a record or such a scalar is
kept. -/
theorem coerce_permissive (base : v.cardinality ≠ .record → ∃ b, v.baseType = some b)
    (formed : w.WellFormed) :
    ∃ p, v.coerce false w = .ok p ∧ p.isNull = w.isNull ∧
      (v.cardinality = .record ∨ w.cardinality = .record → p = w.payload) ∧
      ((v.cardinality = .record ↔ w.cardinality = .record) → p.HasShape v.cardinality) ∧
      (v.cardinality ≠ .record → ∀ b, v.baseType = some b →
        ∀ s ∈ p.scalars, s.StoredAs b ∨ s ∈ w.scalars ∧ s.KeptAs b) ∧
      (p.isNull = false →
        (v.Suits p ↔ (v.cardinality = .record ↔ w.cardinality = .record) ∧
          (v.cardinality ≠ .record → ∀ b, v.baseType = some b →
            ∀ s ∈ roomFor v.cardinality w.scalars, s.KeptAs b → s.StoredAs b))) := by
  have null := isNull_fit base formed
  refine ⟨_, coerce_false v w, null, fit_of_record, fit_hasShape base formed, ?_, fun filled => ?_⟩
  · intro notRecord b hb s hs
    exact mem_fit notRecord hb formed hs
  · rw [null] at filled
    exact suits_fit_iff base formed filled

/-- A text is read as an identifier for a collection of these. -/
theorem coerce_text_to_identifiers :
    let choices : Variable :=
      ⟨"CHOICES", .multiple, some .identifier, .null, .null, .null, none, none, none⟩
    choices.coerce false (.single .string (.string " A ")) = .ok (.list [.identifier "A"]) ∧
      (Payload.list [.identifier "A"]).HasShape .multiple := by
  intro choices
  have stored : choices.coerce false (.single .string (.string " A ")) =
      .ok (.list [.identifier "A"]) := rfl
  obtain ⟨p, taken, -, -, shape, -⟩ := coerce_permissive (v := choices)
    (w := .single .string (.string " A ")) (fun _ => ⟨_, rfl⟩) (by simp [Scalar.fits])
  cases taken.symm.trans stored
  exact ⟨stored, shape (by decide)⟩

/-- What is stored of a well-formed value does not suit the variable that takes it. -/
def Misfit (v : Variable) (w : Value) : Prop :=
  (v.cardinality ≠ .record → ∃ b, v.baseType = some b) ∧ w.WellFormed ∧
    ∃ p, v.coerce false w = .ok p ∧ p.isNull = false ∧ ¬ v.Suits p

/-- A text that is no truth value and a number with a fraction are kept. Records are neither made
nor taken apart. -/
theorem misfits :
    let outcome (c : Cardinality) (b : Option BaseType) : Variable :=
      ⟨"RESULT", c, b, .null, .null, .null, none, none, none⟩
    (outcome .single (some .boolean)).Misfit (.single .string (.string "maybe")) ∧
      (outcome .single (some .integer)).Misfit (.float 2.5) ∧
      (outcome .record none).Misfit (.integer 1) ∧
      (outcome .single (some .integer)).Misfit
        (.mk .record none (.record [("points", .integer 1)])) := by
  intro outcome
  refine ⟨⟨fun _ => ⟨_, rfl⟩, by simp [Scalar.fits], .single (.string "maybe"), rfl, rfl, ?_⟩,
    ⟨fun _ => ⟨_, rfl⟩, by simp, .single (.float (.ofFloat 2.5)), rfl, rfl, ?_⟩,
    ⟨fun typed => absurd rfl typed, by simp, .single (.integer 1), rfl, rfl, ?_⟩,
    ⟨fun _ => ⟨_, rfl⟩, by simp [Payload.WellFormed, Value.FieldsWellFormed],
      .record [("points", .integer 1)], rfl, rfl, ?_⟩⟩
  · rintro ⟨-, stored⟩
    cases stored (by decide) _ rfl _ List.mem_cons_self
  · rintro ⟨-, stored⟩
    cases stored (by decide) _ rfl _ List.mem_cons_self with
    | noInteger notNumber => exact absurd notNumber (by decide +kernel)
  · rintro ⟨shape, -⟩
    cases shape
  · rintro ⟨shape, -⟩
    cases shape

end Variable

end ItemScoring
