import ItemScoring.Proofs.Sorting
import ItemScoring.Proofs.Typing.Value

/-!
# Reading operands twice

The scalars of a payload are read by making each of them fit the base type and, in an unordered
collection, by sorting them. What comes out is normal: every scalar is of a kind that the base type
holds or has a text that cannot be read for it, and an unordered collection is ascending
(`Payload.isNormal_normalized`). The lists that reading leaves alone are exactly the normal ones
(`Payload.normalized_eq_self_iff`). So a second reading finds nothing left to do.
-/

set_option autoImplicit false

namespace ItemScoring

/-- Sorting does nothing exactly when the scalars are in order. -/
theorem Scalar.sort_eq_self_iff {ss : List Scalar} : sort ss = ss ↔ Ascending ss := by
  constructor
  · intro sorted
    exact sorted ▸ pairwise_sort ss
  · exact List.mergeSort_of_pairwise

namespace Payload

variable {c : Cardinality} {b : Option BaseType}

/-- The scalars are settled for the base type, and those of an unordered collection are in order. -/
structure IsNormal (c : Cardinality) (b : Option BaseType) (ss : List Scalar) : Prop where
  settled (s : Scalar) (mem : s ∈ ss) : s.SettledIn b
  ascending (unordered : c = .multiple) : Scalar.Ascending ss

theorem settledIn_of_mem_normalized {p : Payload} {s : Scalar} (h : s ∈ p.normalized c b) :
    s.SettledIn b := by
  rintro t rfl
  have made : s ∈ p.scalars.map (Scalar.recast t) := by
    unfold normalized at h
    split at h
    · exact (List.mergeSort_perm _ _).mem_iff.1 h
    · exact h
  obtain ⟨original, -, rfl⟩ := List.mem_map.1 made
  exact Scalar.settled_recast t original

/-- What is read from a payload is normal. -/
theorem isNormal_normalized (c : Cardinality) (b : Option BaseType) (p : Payload) :
    IsNormal c b (p.normalized c b) where
  settled _ mem := settledIn_of_mem_normalized mem
  ascending unordered := by
    unfold normalized
    rw [if_pos unordered]
    exact Scalar.pairwise_sort _

/-- A text that is no truth value stays among the truth values. -/
example : (list [.string "maybe", .string " true"]).normalized .multiple (some .boolean) =
    [.boolean true, .string "maybe"] := by cbv

/-- Reading leaves exactly the normal lists alone. -/
theorem normalized_eq_self_iff {ss : List Scalar} :
    (list ss).normalized c b = ss ↔ IsNormal c b ss := by
  constructor
  · intro same
    exact same ▸ isNormal_normalized c b (list ss)
  · intro normal
    rw [normalized_of_settledIn (p := list ss) normal.settled]
    by_cases unordered : c = .multiple
    · rw [if_pos unordered]
      exact Scalar.sort_eq_self_iff.2 (normal.ascending unordered)
    · rw [if_neg unordered]
      rfl

theorem stream_list (c : Cardinality) (b : Option BaseType) (ss : List Scalar) :
    (Value.mk c b (.list ss)).stream = ((list ss).normalized c b).map some := by
  rw [Value.stream, Payload.stream]

/-- Making a scalar fit a base type twice is making it fit once. The scalars that are read from a
payload are read again without a change, and this is how operators see a value that holds them. No
other lists are left alone but the normal ones. -/
theorem normalized_idempotent :
    (∀ (b : BaseType) (s : Scalar), (s.recast b).recast b = s.recast b) ∧
    (∀ (c : Cardinality) (b : Option BaseType) (p : Payload),
      (list (p.normalized c b)).normalized c b = p.normalized c b) ∧
    (∀ (c : Cardinality) (b : Option BaseType) (p : Payload),
      (Value.mk c b (.list (p.normalized c b))).stream = (p.normalized c b).map some) ∧
    ∀ (c : Cardinality) (b : Option BaseType) (ss : List Scalar),
      (list ss).normalized c b = ss ↔ IsNormal c b ss := by
  have again (c : Cardinality) (b : Option BaseType) (p : Payload) :
      (list (p.normalized c b)).normalized c b = p.normalized c b :=
    normalized_eq_self_iff.2 (isNormal_normalized c b p)
  refine ⟨fun b s => ?_, again, fun c b p => ?_, fun _ _ _ => normalized_eq_self_iff⟩
  · exact Scalar.recast_eq_self_iff.2 (Scalar.settled_recast b s)
  · rw [stream_list, again]

end Payload

end ItemScoring
