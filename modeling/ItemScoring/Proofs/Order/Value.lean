import Mathlib.Data.List.Basic
import ItemScoring.Operand
import ItemScoring.Operator.Comparison
import ItemScoring.Proofs.Order.Scalar

/-!
# Values that differ in the order of collections

Two values are reordered when they are the same, except that the scalars of collections, also of
those in the fields of records, may be arranged differently. What looks at a value sees the same in
both: the single scalar, the fields, the sorted collection, and whether another value is equal.
-/

set_option autoImplicit false

namespace ItemScoring

/-- Related options are both empty, or hold related things. -/
theorem rel_cases {α β : Type} {R : α → β → Prop} {a : Option α} {b : Option β}
    (h : Option.Rel R a b) :
    (a = none ∧ b = none) ∨ ∃ x y, a = some x ∧ b = some y ∧ R x y := by
  cases h with
  | none => exact .inl ⟨rfl, rfl⟩
  | some related => exact .inr ⟨_, _, rfl, rfl, related⟩

/-! ## Reordering -/

mutual

/-- The same payload of a cardinality, except that collections may be arranged differently. -/
def Payload.Reordered (c : Cardinality) : Payload → Payload → Prop
  | .null, q => q = .null
  | .single s, q => q = .single s
  | .list ss, q => ∃ ts, q = .list ts ∧ ss.Perm ts ∧ (c ≠ .multiple → ss = ts)
  | .record fields, q => ∃ others, q = .record others ∧ Value.FieldsReordered fields others

/-- The same value, except that collections may be arranged differently. -/
def Value.Reordered : Value → Value → Prop
  | .mk c b p, w => ∃ q, w = .mk c b q ∧ p.Reordered c q

def Value.FieldsReordered : List (String × Value) → List (String × Value) → Prop
  | [], others => others = []
  | (name, field) :: rest, others =>
    ∃ other more, others = (name, other) :: more ∧ field.Reordered other ∧
      Value.FieldsReordered rest more

end

mutual

theorem Payload.Reordered.refl (c : Cardinality) : ∀ p : Payload, p.Reordered c p
  | .null => by simp [Payload.Reordered]
  | .single s => by simp [Payload.Reordered]
  | .list ss => by simp [Payload.Reordered]
  | .record fields => by
      simp only [Payload.Reordered]
      exact ⟨fields, rfl, Value.FieldsReordered.refl fields⟩

theorem Value.Reordered.refl : ∀ v : Value, v.Reordered v
  | .mk c b p => by
      simp only [Value.Reordered]
      exact ⟨p, rfl, Payload.Reordered.refl c p⟩

theorem Value.FieldsReordered.refl : ∀ fields : List (String × Value),
    Value.FieldsReordered fields fields
  | [] => by simp [Value.FieldsReordered]
  | (name, field) :: rest => by
      simp only [Value.FieldsReordered]
      exact ⟨field, rest, rfl, Value.Reordered.refl field, Value.FieldsReordered.refl rest⟩

end

/-! ## What is seen of a payload -/

namespace Payload.Reordered

variable {c : Cardinality} {p q : Payload} (h : p.Reordered c q)
include h

theorem isNull : p.isNull = q.isNull := by
  cases p with
  | null => rw [show q = .null from h]
  | single s => rw [show q = .single s from h]
  | list ss =>
      obtain ⟨ts, rfl, -⟩ := h
      rfl
  | record fields =>
      obtain ⟨others, rfl, -⟩ := h
      rfl

theorem single? : p.single? = q.single? := by
  cases p with
  | null => rw [show q = .null from h]
  | single s => rw [show q = .single s from h]
  | list ss =>
      obtain ⟨ts, rfl, -⟩ := h
      rfl
  | record fields =>
      obtain ⟨others, rfl, -⟩ := h
      rfl

/-- The scalars are the same, perhaps arranged differently. -/
theorem scalars_perm : p.scalars.Perm q.scalars := by
  cases p with
  | null => rw [show q = .null from h]
  | single s => rw [show q = .single s from h]
  | list ss =>
      obtain ⟨ts, rfl, perm, -⟩ := h
      exact perm
  | record fields =>
      obtain ⟨others, rfl, -⟩ := h
      exact .refl _

/-- Outside of collections the scalars keep their places. -/
theorem scalars_eq (notMultiple : c ≠ .multiple) : p.scalars = q.scalars := by
  cases p with
  | null => rw [show q = .null from h]
  | single s => rw [show q = .single s from h]
  | list ss =>
      obtain ⟨ts, rfl, -, eq⟩ := h
      exact eq notMultiple
  | record fields =>
      obtain ⟨others, rfl, -⟩ := h
      rfl

/-- The normal form is the same, but for the places of the names of pairs. -/
theorem map_canonical_normalized (b : Option BaseType) :
    (p.normalized c b).map Scalar.canonical = (q.normalized c b).map Scalar.canonical := by
  unfold Payload.normalized
  by_cases hc : c = .multiple
  · simp only [hc, if_true]
    refine Scalar.map_canonical_sort ?_
    cases b with
    | none => exact scalars_perm h
    | some b => exact (scalars_perm h).map _
  · simp only [hc, if_false]
    rw [scalars_eq h hc]

end Payload.Reordered

/-- Scalars that are arranged differently in a collection only make reordered payloads. -/
theorem Payload.reordered_ofScalars {c : Cardinality} {ss ts : List Scalar} (perm : ss.Perm ts)
    (eq : c ≠ .multiple → ss = ts) : (Payload.ofScalars ss).Reordered c (.ofScalars ts) := by
  cases ss with
  | nil =>
      obtain rfl := List.nil_perm.1 perm
      exact .refl c _
  | cons s rest =>
      cases ts with
      | nil => exact absurd perm.length_eq (by simp)
      | cons t more =>
          simp only [Payload.ofScalars, Payload.Reordered]
          exact ⟨t :: more, rfl, perm, eq⟩

/-! ## What is seen of a value -/

namespace Value.Reordered

variable {v w : Value} (h : v.Reordered w)
include h

theorem cardinality : v.cardinality = w.cardinality := by
  obtain ⟨c, b, p⟩ := v
  obtain ⟨q, rfl, -⟩ := h
  rfl

theorem baseType : v.baseType = w.baseType := by
  obtain ⟨c, b, p⟩ := v
  obtain ⟨q, rfl, -⟩ := h
  rfl

theorem payload : v.payload.Reordered v.cardinality w.payload := by
  obtain ⟨c, b, p⟩ := v
  obtain ⟨q, rfl, related⟩ := h
  exact related

theorem isNull : v.isNull = w.isNull := Payload.Reordered.isNull (payload h)

theorem single? : v.single? = w.single? := Payload.Reordered.single? (payload h)

theorem scalars_perm : v.scalars.Perm w.scalars := Payload.Reordered.scalars_perm (payload h)

theorem scalars_eq (notMultiple : v.cardinality ≠ .multiple) : v.scalars = w.scalars :=
  Payload.Reordered.scalars_eq (payload h) notMultiple

end Value.Reordered

/-- Values of one shape are reordered when their payloads are. -/
theorem Value.reordered_mk {c : Cardinality} {b : Option BaseType} {p q : Payload}
    (h : p.Reordered c q) : (Value.mk c b p).Reordered (.mk c b q) := by
  simp only [Value.Reordered]
  exact ⟨q, rfl, h⟩

namespace Value.FieldsReordered

theorem length_eq {fields others : List (String × Value)} (h : FieldsReordered fields others) :
    fields.length = others.length := by
  induction fields generalizing others with
  | nil => rw [show others = [] from h]
  | cons entry rest ih =>
      obtain ⟨other, more, rfl, -, related⟩ := h
      simp only [List.length_cons, ih related]

/-- Fields of one name are reordered. -/
theorem lookup {fields others : List (String × Value)} (h : FieldsReordered fields others)
    (name : String) : Option.Rel Reordered (fields.lookup name) (others.lookup name) := by
  induction fields generalizing others with
  | nil =>
      rw [show others = [] from h]
      exact .none
  | cons entry rest ih =>
      obtain ⟨key, field⟩ := entry
      obtain ⟨other, more, rfl, first, related⟩ := h
      rw [List.lookup_cons, List.lookup_cons]
      cases name == key with
      | true => exact .some first
      | false => exact ih related

end Value.FieldsReordered

theorem Value.Reordered.fields? {v w : Value} (h : v.Reordered w) :
    Option.Rel Value.FieldsReordered v.fields? w.fields? := by
  obtain ⟨c, b, p⟩ := v
  obtain ⟨q, rfl, related⟩ := h
  cases p with
  | null =>
      rw [show q = .null from related]
      exact .none
  | single s =>
      rw [show q = .single s from related]
      exact .none
  | list ss =>
      obtain ⟨ts, rfl, -⟩ := related
      exact .none
  | record fields =>
      obtain ⟨others, rfl, related⟩ := related
      exact .some related

/-! ## Streams -/

mutual

/-- Reordered values have one stream, but for the places of the names of pairs. -/
theorem Value.Reordered.map_canonical_stream : ∀ {v w : Value}, v.Reordered w →
    v.stream.map (Option.map Scalar.canonical) = w.stream.map (Option.map Scalar.canonical)
  | .mk c b p, w, h => by
      obtain ⟨q, rfl, related⟩ := h
      simp only [Value.stream]
      exact Payload.Reordered.map_canonical_stream b related

theorem Payload.Reordered.map_canonical_stream {c : Cardinality} (b : Option BaseType) :
    ∀ {p q : Payload}, p.Reordered c q →
      (p.stream c b).map (Option.map Scalar.canonical) =
        (q.stream c b).map (Option.map Scalar.canonical)
  | .null, q, h => by rw [show q = .null from h]
  | .single s, q, h => by rw [show q = .single s from h]
  | .list ss, q, h => by
      have normal := Payload.Reordered.map_canonical_normalized h b
      obtain ⟨ts, rfl, -⟩ := h
      simp only [Payload.stream, List.map_map]
      simpa [Function.comp_def] using congrArg (List.map some) normal
  | .record fields, q, h => by
      obtain ⟨others, rfl, related⟩ := h
      simp only [Payload.stream]
      exact Value.FieldsReordered.map_canonical_stream related

theorem Value.FieldsReordered.map_canonical_stream : ∀ {fields others : List (String × Value)},
    Value.FieldsReordered fields others →
      (Value.fieldStream fields).map (Option.map Scalar.canonical) =
        (Value.fieldStream others).map (Option.map Scalar.canonical)
  | [], others, h => by rw [show others = [] from h]
  | (name, field) :: rest, others, h => by
      obtain ⟨other, more, rfl, first, related⟩ := h
      simp only [Value.fieldStream, List.map_append]
      rw [Value.Reordered.map_canonical_stream first,
        Value.FieldsReordered.map_canonical_stream related]

end

/-! ## Equality of values -/

namespace Comparison

/-- Whether scalars agree does not depend on the places of the names of pairs. -/
theorem scalarsAgree_map_canonical (ss ts : List Scalar) :
    scalarsAgree (ss.map Scalar.canonical) (ts.map Scalar.canonical) = scalarsAgree ss ts := by
  induction ss generalizing ts with
  | nil => cases ts <;> rfl
  | cons s rest ih =>
      cases ts with
      | nil => rfl
      | cons t more => simp [scalarsAgree, ih]

/-- The normal forms of reordered payloads agree with those of reordered payloads. -/
theorem scalarsAgree_normalized {c : Cardinality} {a b : Option BaseType} {p p' q q' : Payload}
    (hp : p.Reordered c p') (hq : q.Reordered c q') :
    scalarsAgree (p.normalized c a) (q.normalized c b) =
      scalarsAgree (p'.normalized c a) (q'.normalized c b) := by
  rw [← scalarsAgree_map_canonical, ← scalarsAgree_map_canonical (p'.normalized c a),
    Payload.Reordered.map_canonical_normalized hp, Payload.Reordered.map_canonical_normalized hq]

mutual

/-- Whether values are equal does not depend on how collections are arranged. -/
theorem valuesAgree_reordered : ∀ {v v' w w' : Value}, v.Reordered v' → w.Reordered w' →
    valuesAgree v w = valuesAgree v' w'
  | .mk c a p, v', w, w', hv, hw => by
      obtain ⟨p', rfl, hp⟩ := hv
      have shape := hw.cardinality
      by_cases same : c = w.cardinality
      · have hq := hw.payload
        rw [← same] at hq
        simp only [valuesAgree]
        rw [shape, ← hw.baseType, payloadsAgree_reordered hp hq]
      · simp only [valuesAgree]
        have differ : (c == w.cardinality) = false := beq_false_of_ne same
        rw [← shape, differ, Bool.false_and, Bool.false_and]

theorem payloadsAgree_reordered {c : Cardinality} {a b : Option BaseType} :
    ∀ {p p' q q' : Payload}, p.Reordered c p' → q.Reordered c q' →
      payloadsAgree c a p b q = payloadsAgree c a p' b q'
  | .null, p', q, q', hp, hq => by
      rw [show p' = .null from hp]
      simp only [payloadsAgree]
      exact Payload.Reordered.isNull hq
  | .single s, p', q, q', hp, hq => by
      rw [show p' = .single s from hp]
      simp only [payloadsAgree]
      rw [Payload.Reordered.isNull hq, scalarsAgree_normalized (.refl c _) hq]
  | .list ss, p', q, q', hp, hq => by
      have both := scalarsAgree_normalized (a := a) (b := b) hp hq
      obtain ⟨ts, rfl, -⟩ := hp
      simp only [payloadsAgree]
      rw [Payload.Reordered.isNull hq, both]
  | .record fields, p', q, q', hp, hq => by
      obtain ⟨fields', rfl, hf⟩ := hp
      have empty : scalarsAgree [] (q.normalized c b) = scalarsAgree [] (q'.normalized c b) := by
        rw [← scalarsAgree_map_canonical, ← scalarsAgree_map_canonical [] (q'.normalized c b),
          Payload.Reordered.map_canonical_normalized hq]
      cases q with
      | null => rw [show q' = .null from hq]; simp only [payloadsAgree]
      | single s => rw [show q' = .single s from hq]; simp only [payloadsAgree]
      | list ss =>
          obtain ⟨ts, rfl, -⟩ := hq
          simp only [payloadsAgree]
          rw [empty]
      | record others =>
          obtain ⟨others', rfl, ho⟩ := hq
          simp only [payloadsAgree]
          rw [hf.length_eq, ho.length_eq, fieldsAgree_reordered hf ho]

theorem fieldsAgree_reordered : ∀ {fields fields' others others' : List (String × Value)},
    Value.FieldsReordered fields fields' → Value.FieldsReordered others others' →
      fieldsAgree fields others = fieldsAgree fields' others'
  | [], fields', others, others', hf, ho => by
      rw [show fields' = [] from hf]
      simp only [fieldsAgree]
  | (name, field) :: rest, fields', others, others', hf, ho => by
      obtain ⟨field', rest', rfl, first, related⟩ := hf
      simp only [fieldsAgree]
      rw [fieldsAgree_reordered related ho]
      congr 1
      rcases rel_cases (ho.lookup name) with ⟨left, right⟩ | ⟨other, other', left, right, both⟩
      · rw [left, right]
      · rw [left, right]
        exact valuesAgree_reordered first both

end

end Comparison

end ItemScoring
