import ItemScoring.Session

/-!
# Variables of a session

Identifiers increase strictly along the variables of a session, so an identifier stands for one
variable at most. Storing a payload changes the value of that variable and nothing else.
-/

set_option autoImplicit false

namespace ItemScoring.Session

variable {s : Session} {identifier : String} {v w : Variable}

/-- Two declared variables with one identifier are the same variable. -/
theorem eq_of_mem_of_identifier (hv : v ∈ s.declared) (hw : w ∈ s.declared)
    (same : v.identifier = w.identifier) : v = w := by
  refine List.Pairwise.forall_of_forall_of_flip (R := fun a b : Variable =>
    a.identifier = b.identifier → a = b) (fun _ _ _ => rfl) ?_ ?_ hv hw same
  · exact s.sorted.imp fun less eq => absurd (eq ▸ less) (String.lt_irrefl _)
  · exact s.sorted.imp fun less eq => absurd (eq ▸ less) (String.lt_irrefl _)

/-- A variable is found when it is declared under the identifier. -/
theorem find?_eq_some :
    s.find? identifier = some v ↔ v ∈ s.declared ∧ v.identifier = identifier := by
  constructor
  · exact fun h => ⟨List.mem_of_find?_eq_some h, by simpa using List.find?_some h⟩
  · rintro ⟨hv, rfl⟩
    cases h : s.find? v.identifier with
    | none =>
        have missing := List.find?_eq_none.1 h v hv
        simp at missing
    | some w =>
        have found : w.identifier = v.identifier := by simpa using List.find?_some h
        rw [eq_of_mem_of_identifier (List.mem_of_find?_eq_some h) hv found]

/-- A variable after storing is one from before, with the payload when it is the one that is stored
in. -/
theorem mem_store {p : Payload} :
    w ∈ (s.store identifier p).declared ↔
      ∃ v ∈ s.declared, w = if v.identifier = identifier then { v with value := p } else v := by
  simp only [store, List.mem_map, eq_comm]

/-- The variable that a payload is stored in is found with it. -/
theorem find?_store {p : Payload} (found : s.find? identifier = some v) :
    (s.store identifier p).find? identifier = some { v with value := p } := by
  obtain ⟨hv, same⟩ := find?_eq_some.1 found
  refine find?_eq_some.2 ⟨mem_store.2 ⟨v, hv, ?_⟩, same⟩
  rw [if_pos same]

/-- The other variables are found as before. -/
theorem find?_store_of_ne {other : String} (different : other ≠ identifier) (p : Payload) :
    (s.store identifier p).find? other = s.find? other := by
  have seen : ∀ w, (s.store identifier p).find? other = some w ↔ s.find? other = some w := by
    intro w
    rw [find?_eq_some, find?_eq_some, mem_store]
    constructor
    · rintro ⟨⟨v, hv, rfl⟩, same⟩
      by_cases own : v.identifier = identifier
      · rw [if_pos own] at same
        exact absurd (same.symm.trans own) different
      · rw [if_neg own] at same ⊢
        exact ⟨hv, same⟩
    · rintro ⟨hw, rfl⟩
      exact ⟨⟨w, hw, (if_neg different).symm⟩, rfl⟩
  exact Option.ext seen

/-- Payloads are stored in two variables in either order. -/
theorem store_comm {other : String} (different : other ≠ identifier) (p q : Payload) :
    (s.store identifier p).store other q = (s.store other q).store identifier p := by
  have lists : ((s.store identifier p).store other q).declared =
      ((s.store other q).store identifier p).declared := by
    simp only [store, List.map_map]
    refine List.map_congr_left fun v _ => ?_
    simp only [Function.comp_apply]
    by_cases own : v.identifier = identifier
    · by_cases others : v.identifier = other
      · exact absurd (others.symm.trans own) different
      · simp only [if_pos own, if_neg others]
    · by_cases others : v.identifier = other
      · simp only [if_neg own, if_pos others]
      · simp only [if_neg own, if_neg others]
  cases left : (s.store identifier p).store other q
  cases right : (s.store other q).store identifier p
  rw [left, right] at lists
  cases lists
  rfl

end ItemScoring.Session
