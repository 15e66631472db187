import Mathlib.Data.List.Forall2
import ItemScoring.Proofs.Order.Value
import ItemScoring.Proofs.Session
import ItemScoring.Proofs.Views

/-!
# Sessions that differ in the order of collections

Two sessions are reordered when they declare the same variables, except that what these hold may be
reordered. Attributes refer to variables that hold a single scalar, so every attribute is read alike
in both.
-/

set_option autoImplicit false

namespace ItemScoring

/-- The same variable, except that the payloads may be reordered. -/
structure Variable.Reordered (v w : Variable) : Prop where
  identifier : v.identifier = w.identifier
  cardinality : v.cardinality = w.cardinality
  baseType : v.baseType = w.baseType
  value : v.value.Reordered v.cardinality w.value
  defaultValue : v.defaultValue.Reordered v.cardinality w.defaultValue
  correctResponse : v.correctResponse.Reordered v.cardinality w.correctResponse
  mapping : v.mapping = w.mapping
  areaMapping : v.areaMapping = w.areaMapping
  lookupTable : v.lookupTable = w.lookupTable

/-- The same variables, except that what they hold may be reordered. -/
def Session.Reordered (s t : Session) : Prop :=
  List.Forall₂ Variable.Reordered s.declared t.declared

namespace Session.Reordered

variable {s t : Session} (h : s.Reordered t)
include h

/-- An identifier stands for reordered variables, or for none in both sessions. -/
theorem find? (identifier : String) :
    Option.Rel Variable.Reordered (s.find? identifier) (t.find? identifier) := by
  unfold Session.find?
  have declared : List.Forall₂ Variable.Reordered s.declared t.declared := h
  generalize s.declared = vs at declared ⊢
  generalize t.declared = ws at declared ⊢
  clear h
  induction declared with
  | nil => exact .none
  | @cons v w _ _ first _ ih =>
      simp only [List.find?_cons, first.identifier]
      cases decide (w.identifier = identifier) with
      | true => exact .some first
      | false => exact ih

/-- Storing reordered payloads keeps sessions reordered. -/
theorem store {identifier : String} {p q : Payload}
    (payload : ∀ v ∈ s.declared, v.identifier = identifier → p.Reordered v.cardinality q) :
    (s.store identifier p).Reordered (t.store identifier q) := by
  unfold Session.Reordered Session.store
  dsimp only
  rw [List.forall₂_map_left_iff, List.forall₂_map_right_iff]
  have each := (List.forall₂_and_left _ _).2 ⟨payload, h⟩
  refine each.imp fun v w both => ?_
  obtain ⟨payload, related⟩ := both
  rw [← related.identifier]
  by_cases same : v.identifier = identifier
  · simp only [same, if_true]
    exact { related with identifier := rfl, value := payload same }
  · simp only [same, if_false]
    exact related

/-- Attributes refer to single scalars, which are the same in both sessions. -/
theorem sameReferences : s.SameReferences t := by
  intro identifier
  rcases rel_cases (h.find? identifier) with ⟨left, right⟩ | ⟨v, w, left, right, related⟩
  · rw [left, right]
  · rw [left, right, Option.bind_some, Option.bind_some, related.value.single?]

end Session.Reordered

end ItemScoring
