import Mathlib
import ItemScoring.Leaf
import ItemScoring.Proofs.Results
import ItemScoring.Proofs.Session

/-!
# What is added up to a score

A score is a sum over a list of things, to which the entries of a mapping apply. Floating-point sums
depend on the order of their terms, so the terms are kept apart from the sum: `contributions` lists
them in the order in which they are added. As a collection they are known without it. Every entry
that applies to something contributes once, and everything to which no entry applies contributes the
default (`contributions_perm`). So the order of the things never changes the terms but only their
order, and each order of the terms comes from an order of the things (`exists_perm_contributions`).
-/

set_option autoImplicit false

namespace ItemScoring.Leaf

/-- An expression that names a variable sees what is stored in it. -/
theorem declared_store {e : Expression} {s : Session} {id : String} {v : Variable}
    (named : identifier e = .ok id) (found : s.find? id = some v) (p : Payload) :
    declared e (s.store id p) = .ok { v with value := p } := by
  refine Result.bind_eq_ok.2 ⟨id, named, ?_⟩
  rw [Session.find?_store found]
  rfl

/-! ## Terms -/

section Contributions

variable {α β : Type} (entries : List β) (applies : α → β → Bool) (score : β → Float)
  (defaultScore : Float)

/-- The terms of a score, in the order in which they are added. The indices of the entries used so
far are kept. -/
def contributions (used : List Nat) : List α → List Float
  | [] => []
  | a :: rest =>
    match entries.findIdx? (applies a) with
    | none => defaultScore :: contributions used rest
    | some k =>
      if k ∈ used then contributions used rest
      else (entries[k]?).elim 0 score :: contributions (k :: used) rest

theorem addScores_eq (used : List Nat) (total : Float) (as : List α) :
    addScores entries applies score defaultScore used total as =
      (contributions entries applies score defaultScore used as).foldl (· + ·) total := by
  induction as generalizing used total with
  | nil => rfl
  | cons a rest ih =>
      rw [addScores, contributions]
      cases entries.findIdx? (applies a) with
      | none => exact ih used (total + defaultScore)
      | some k =>
          by_cases before : k ∈ used
          · simp only [List.contains_iff_mem, before, if_true]
            exact ih used total
          · simp only [List.contains_iff_mem, before, if_false]
            exact ih (k :: used) _

/-- Things to which the same entries apply have the same contributions. -/
theorem contributions_map {γ : Type} (f : γ → α) (used : List Nat) (cs : List γ) :
    contributions entries (fun c => applies (f c)) score defaultScore used cs =
      contributions entries applies score defaultScore used (cs.map f) := by
  induction cs generalizing used with
  | nil => rfl
  | cons c rest ih => simp only [List.map_cons, contributions, ih]

/-- The indices of the entries that are used by things and have not been used before. -/
def newlyUsed (used : List Nat) (as : List α) : List Nat :=
  (List.range entries.length).filter fun k =>
    k ∉ used ∧ ∃ a ∈ as, entries.findIdx? (applies a) = some k

variable {entries applies} in
theorem mem_newlyUsed {used : List Nat} {as : List α} {k : Nat} :
    k ∈ newlyUsed entries applies used as ↔
      k ∉ used ∧ ∃ a ∈ as, entries.findIdx? (applies a) = some k := by
  rw [newlyUsed, List.mem_filter, decide_eq_true_iff, and_iff_right_iff_imp]
  rintro ⟨-, a, -, found⟩
  exact List.mem_range.2 (List.findIdx?_eq_some_iff_findIdx_eq.1 found).1

theorem nodup_newlyUsed (used : List Nat) (as : List α) :
    (newlyUsed entries applies used as).Nodup :=
  List.nodup_range.filter _

/-- Each index is used first by some thing. -/
theorem newlyUsed_cons {used : List Nat} {a : α} {k : Nat}
    (found : entries.findIdx? (applies a) = some k) (before : k ∉ used) (rest : List α) :
    (newlyUsed entries applies used (a :: rest)).Perm
      (k :: newlyUsed entries applies (k :: used) rest) := by
  have apart : k ∉ newlyUsed entries applies (k :: used) rest := fun again =>
    (mem_newlyUsed.1 again).1 List.mem_cons_self
  rw [List.perm_ext_iff_of_nodup (nodup_newlyUsed ..)
    (List.nodup_cons.2 ⟨apart, nodup_newlyUsed ..⟩)]
  intro j
  rw [List.mem_cons, mem_newlyUsed, mem_newlyUsed, List.exists_mem_cons_iff, found, Option.some_inj,
    List.mem_cons, not_or]
  by_cases same : j = k
  · subst same
    exact iff_of_true ⟨before, .inl rfl⟩ (.inl rfl)
  · simp only [same, Ne.symm same, false_or, not_false_eq_true, true_and]

/-- Every entry that applies to something and has not been used contributes its score once, and
everything to which no entry applies contributes the default. -/
theorem contributions_perm (used : List Nat) (as : List α) :
    (contributions entries applies score defaultScore used as).Perm
      (List.replicate (as.countP fun a => (entries.findIdx? (applies a)).isNone) defaultScore ++
        (newlyUsed entries applies used as).map fun k => (entries[k]?).elim 0 score) := by
  induction as generalizing used with
  | nil => simp [contributions, newlyUsed]
  | cons a rest ih =>
      rw [contributions]
      cases found : entries.findIdx? (applies a) with
      | none =>
          have same : newlyUsed entries applies used (a :: rest) =
              newlyUsed entries applies used rest := by
            simp only [newlyUsed, List.exists_mem_cons_iff, found, reduceCtorEq, false_or]
          rw [List.countP_cons_of_pos (by rw [found]; rfl), same, List.replicate_succ]
          exact (ih used).cons _
      | some k =>
          rw [List.countP_cons_of_neg (by rw [found]; exact Bool.false_ne_true)]
          by_cases before : k ∈ used
          · have same : newlyUsed entries applies used (a :: rest) =
                newlyUsed entries applies used rest := by
              refine List.filter_congr fun j _ => ?_
              rw [decide_eq_decide, List.exists_mem_cons_iff, found]
              grind
            simp only [before, if_true, same]
            exact ih used
          · simp only [before, if_false]
            refine ((ih (k :: used)).cons _).trans ?_
            refine List.perm_middle.symm.trans (List.Perm.append_left _ ?_)
            exact ((newlyUsed_cons entries applies found before rest).map
              fun k => (entries[k]?).elim 0 score).symm

/-- The order of the things does not matter for what the terms are. -/
theorem contributions_perm_of_perm (used : List Nat) {as bs : List α} (perm : as.Perm bs) :
    (contributions entries applies score defaultScore used as).Perm
      (contributions entries applies score defaultScore used bs) := by
  have same : newlyUsed entries applies used as = newlyUsed entries applies used bs := by
    simp only [newlyUsed, perm.mem_iff]
  refine (contributions_perm ..).trans ((contributions_perm ..).trans ?_).symm
  rw [perm.countP_eq, same]

/-- Each term is the first one if the thing that it comes from is. -/
theorem exists_first {used : List Nat} {as : List α} {x : Float}
    (h : x ∈ contributions entries applies score defaultScore used as) :
    ∃ a ∈ as, ∃ used', ∀ rest, contributions entries applies score defaultScore used (a :: rest) =
      x :: contributions entries applies score defaultScore used' rest := by
  rw [(contributions_perm ..).mem_iff, List.mem_append] at h
  rcases h with uncovered | covered
  · obtain ⟨some, rfl⟩ := List.mem_replicate.1 uncovered
    obtain ⟨a, mem, none⟩ := List.countP_pos_iff.1 (Nat.pos_of_ne_zero some)
    refine ⟨a, mem, used, fun rest => ?_⟩
    rw [contributions, Option.isNone_iff_eq_none.1 none]
  · obtain ⟨k, new, rfl⟩ := List.mem_map.1 covered
    obtain ⟨before, a, mem, found⟩ := mem_newlyUsed.1 new
    refine ⟨a, mem, k :: used, fun rest => ?_⟩
    rw [contributions, found]
    exact if_neg before

/-- Each order of the terms comes from an order of the things. -/
theorem exists_perm_contributions {used : List Nat} {as : List α} {xs : List Float}
    (perm : xs.Perm (contributions entries applies score defaultScore used as)) :
    ∃ bs, bs.Perm as ∧ contributions entries applies score defaultScore used bs = xs := by
  induction xs generalizing used as with
  | nil => exact ⟨as, .rfl, perm.nil_eq.symm⟩
  | cons x xs ih =>
      -- The first term says which thing comes first, and the others are an order of what is left.
      obtain ⟨a, mem, used', first⟩ :=
        exists_first entries applies score defaultScore (perm.subset List.mem_cons_self)
      obtain ⟨before, after, rfl⟩ := List.append_of_mem mem
      have front : (before ++ a :: after).Perm (a :: (before ++ after)) := List.perm_middle
      have others := perm.trans (contributions_perm_of_perm _ _ _ _ used front)
      rw [first, List.perm_cons] at others
      obtain ⟨bs, perm', same⟩ := ih others
      exact ⟨a :: bs, (perm'.cons a).trans front.symm, by rw [first, same]⟩

end Contributions

end ItemScoring.Leaf
