/-!
# Lists sorted by key

Objects, records and attribute maps are lists of pairs whose keys increase strictly in the order of
strings, so a map has exactly one such list and two maps are equal when their lists are. A key is
looked up with `List.lookup`.
-/

set_option autoImplicit false

namespace ItemScoring.Keyed

variable {α : Type}

/-- The keys increase strictly. -/
def Sorted (entries : List (String × α)) : Prop :=
  entries.Pairwise fun a b => a.1 < b.1

/-- Put an entry in its place; an entry with the same key is replaced. -/
def insert (key : String) (value : α) : List (String × α) → List (String × α)
  | [] => [(key, value)]
  | entry :: rest =>
    if key < entry.1 then (key, value) :: entry :: rest
    else if key = entry.1 then (key, value) :: rest
    else entry :: insert key value rest

/-- Sort entries by key; of several with one key, the last is kept. -/
def ofList (entries : List (String × α)) : List (String × α) :=
  entries.foldl (fun sorted entry => insert entry.1 entry.2 sorted) []

/-- The keys after an insertion are the inserted key and the keys before. -/
theorem mem_keys_insert {key : String} {value : α} {entries : List (String × α)} {k : String} :
    k ∈ (insert key value entries).map (·.1) ↔ k = key ∨ k ∈ entries.map (·.1) := by
  induction entries with
  | nil => simp [insert]
  | cons entry rest ih =>
    unfold insert
    split
    · simp
    split
    · next h => simp [h]
    · simp only [List.map_cons, List.mem_cons, ih]
      grind

/-- Insertion keeps a list sorted. -/
theorem sorted_insert {key : String} {value : α} {entries : List (String × α)}
    (h : Sorted entries) : Sorted (insert key value entries) := by
  induction entries with
  | nil => simp [insert, Sorted]
  | cons entry rest ih =>
    obtain ⟨first, others⟩ := List.pairwise_cons.1 h
    unfold insert
    split
    · next less =>
      refine List.pairwise_cons.2 ⟨fun b hb => ?_, h⟩
      rcases List.mem_cons.1 hb with rfl | hb
      · exact less
      · exact String.lt_trans less (first b hb)
    split
    · next same => exact List.pairwise_cons.2 ⟨fun b hb => same ▸ first b hb, others⟩
    · next notLess notSame =>
      refine List.pairwise_cons.2 ⟨fun b hb => ?_, ih others⟩
      have hk : b.1 ∈ (insert key value rest).map (·.1) := List.mem_map_of_mem hb
      rcases mem_keys_insert.1 hk with hk | hk
      · rw [hk]
        rcases String.le_total entry.1 key with le | le
        · exact String.not_le.1 fun ge => notSame (String.le_antisymm ge le)
        · exact absurd (String.not_le.1 fun ge => notSame (String.le_antisymm le ge)) notLess
      · obtain ⟨c, hc, hcb⟩ := List.mem_map.1 hk
        exact hcb ▸ first c hc

/-- Sorting gives a sorted list. -/
theorem sorted_ofList (entries : List (String × α)) : Sorted (ofList entries) := by
  suffices ∀ acc : List (String × α), Sorted acc →
      Sorted (entries.foldl (fun sorted entry => insert entry.1 entry.2 sorted) acc) from
    this [] List.Pairwise.nil
  induction entries with
  | nil => exact fun _ h => h
  | cons entry rest ih => exact fun acc h => ih _ (sorted_insert h)

end ItemScoring.Keyed
