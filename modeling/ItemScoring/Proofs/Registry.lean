import ItemScoring.Registry

/-!
# What the standard registry holds

A lookup in a list that was sorted by key finds an entry of the list that was given, so a tag of the
standard registry stands for one of the listed processors. A property of all processors is then a
property of each entry of the seven lists.
-/

set_option autoImplicit false

namespace ItemScoring

namespace Keyed

variable {α : Type}

/-- The first entry decides about its own key, and the rest about all others. -/
theorem lookup_cons (name : String) (value : α) (rest : List (String × α)) (k : String) :
    ((name, value) :: rest).lookup k = if k = name then some value else rest.lookup k := by
  by_cases h : k = name
  · simp [h]
  · have : (k == name) = false := beq_false_of_ne h
    simp [List.lookup_cons, this, h]

/-- After an insertion the inserted key has the inserted value, and all others what they had. -/
theorem lookup_insert (key : String) (value : α) (entries : List (String × α)) (k : String) :
    (insert key value entries).lookup k = if k = key then some value else entries.lookup k := by
  induction entries with
  | nil => exact lookup_cons key value [] k
  | cons entry rest ih =>
      obtain ⟨name, old⟩ := entry
      unfold insert
      split
      · exact lookup_cons ..
      split
      · next same =>
          simp only at same
          subst same
          rw [lookup_cons, lookup_cons]
          split <;> rfl
      · next notSame =>
          rw [lookup_cons, lookup_cons, ih]
          by_cases hn : k = name
          · have : k ≠ key := fun h => notSame (h.symm.trans hn)
            simp [hn, hn ▸ this]
          · simp [hn]

/-- Of the values that a list gives to a key, the sorted list has the last. -/
theorem lookup_ofList (entries : List (String × α)) (k : String) :
    (ofList entries).lookup k = entries.reverse.lookup k := by
  suffices ∀ sofar : List (String × α),
      (entries.foldl (fun sorted entry => insert entry.1 entry.2 sorted) sofar).lookup k =
        (entries.reverse.lookup k).or (sofar.lookup k) by
    simpa [ofList] using this []
  induction entries with
  | nil => simp
  | cons entry rest ih =>
      intro sofar
      obtain ⟨name, value⟩ := entry
      rw [List.foldl_cons, ih, lookup_insert, List.reverse_cons, List.lookup_append,
        Option.or_assoc, lookup_cons]
      split <;> simp

/-- What a sorted list gives to a key is an entry of the list that was sorted. -/
theorem mem_of_lookup_ofList {entries : List (String × α)} {k : String} {value : α}
    (h : (ofList entries).lookup k = some value) : (k, value) ∈ entries := by
  rw [lookup_ofList] at h
  have := List.lookup_eq_some_iff.1 h
  obtain ⟨before, after, eq, -⟩ := this
  rw [← List.mem_reverse, eq]
  simp

end Keyed

namespace Registry

/-- The entries that the standard registry is made of. -/
def standardEntries : List (String × Processor) :=
  leaves ++ logic ++ comparisons ++ arithmetic ++ functions ++ containers ++ tests

/-- The standard registry finds what the list of its entries gives to a tag. -/
theorem find?_standard (tag : String) :
    standard.find? tag = standardEntries.reverse.lookup tag :=
  Keyed.lookup_ofList standardEntries tag

/-- A tag of the standard registry stands for a listed processor. -/
theorem mem_of_find?_standard {tag : String} {p : Processor}
    (h : standard.find? tag = some p) : (tag, p) ∈ standardEntries :=
  Keyed.mem_of_lookup_ofList h

/-- A property of the entries of all seven lists holds of every tag of the standard registry. -/
theorem find?_standard_induction {P : String → Processor → Prop}
    (leaf : ∀ entry ∈ leaves, P entry.1 entry.2)
    (logic : ∀ entry ∈ logic, P entry.1 entry.2)
    (comparison : ∀ entry ∈ comparisons, P entry.1 entry.2)
    (arithmetic : ∀ entry ∈ arithmetic, P entry.1 entry.2)
    (function : ∀ entry ∈ functions, P entry.1 entry.2)
    (container : ∀ entry ∈ containers, P entry.1 entry.2)
    (test : ∀ entry ∈ tests, P entry.1 entry.2)
    {tag : String} {p : Processor} (h : standard.find? tag = some p) : P tag p := by
  have mem := mem_of_find?_standard h
  simp only [standardEntries, List.mem_append] at mem
  rcases mem with (((((mem | mem) | mem) | mem) | mem) | mem) | mem
  · exact leaf _ mem
  · exact logic _ mem
  · exact comparison _ mem
  · exact arithmetic _ mem
  · exact function _ mem
  · exact container _ mem
  · exact test _ mem

end Registry

end ItemScoring
