import Mathlib.Data.List.Basic
import ItemScoring.Proofs.Binary64.Pattern
import ItemScoring.Scalar.Basic

/-!
# Agreement and sorting of scalars

Both the agreement of scalars and the order in which unordered collections are sorted look at a few
parts of a scalar only: its kind, up to two texts and up to two numbers. Agreement is symmetric and
transitive, and the order is total and transitive. Scalars that the order does not tell apart are
identical, but for the names of a pair, which may have changed places. So a sorted collection does
not depend on the order in which its scalars were given, once the names of pairs are put in order.
-/

set_option autoImplicit false

namespace ItemScoring.Scalar

variable {r s t : Scalar}

/-! ## The parts of a scalar -/

/-- The texts of a scalar; those of a pair are in order. -/
def texts : Scalar → String × String
  | .identifier a => (a, "")
  | .string a => (a, "")
  | .file a => (a, "")
  | .uri a => (a, "")
  | .pair a b => sortedPair a b
  | .directedPair a b => (a, b)
  | _ => ("", "")

/-- The numbers by which a scalar is sorted. -/
def numbers : Scalar → Int × Int
  | .boolean b => (b.toNat, 0)
  | .integer n => (n.toInt, 0)
  | .float x => (Binary64.orderKey x, 0)
  | .point x y => (x.toInt, y.toInt)
  | .duration d => (d.nanoseconds, 0)
  | _ => (0, 0)

/-- The numbers by which a scalar agrees with others; what is no number has none. -/
def marks? : Scalar → Option (Int × Int × Nat)
  | .float x => Binary64.mark? x.toFloat
  | s => some (s.numbers.1, s.numbers.2, 0)

/-- The same scalar, with the names of a pair in order. -/
def canonical : Scalar → Scalar
  | .pair a b => .pair (sortedPair a b).1 (sortedPair a b).2
  | s => s

/-- Two pairs of texts are the same when sorted if they are the same, perhaps with the texts in
other places. -/
theorem sortedPair_eq_iff {a b c d : String} :
    sortedPair a b = sortedPair c d ↔ (a = c ∧ b = d) ∨ (a = d ∧ b = c) := by
  unfold sortedPair
  by_cases hab : a ≤ b
  · by_cases hcd : c ≤ d
    · simp only [hab, hcd, if_true, Prod.mk.injEq]
      refine ⟨.inl, ?_⟩
      rintro (h | ⟨rfl, rfl⟩)
      · exact h
      · exact ⟨String.le_antisymm hab hcd, String.le_antisymm hcd hab⟩
    · simp only [hab, hcd, if_true, if_false, Prod.mk.injEq]
      refine ⟨.inr, ?_⟩
      rintro (⟨rfl, rfl⟩ | h)
      · exact absurd hab hcd
      · exact h
  · by_cases hcd : c ≤ d
    · simp only [hab, hcd, if_true, if_false, Prod.mk.injEq]
      constructor
      · rintro ⟨rfl, rfl⟩
        exact .inr ⟨rfl, rfl⟩
      · rintro (⟨rfl, rfl⟩ | ⟨rfl, rfl⟩)
        · exact absurd hcd hab
        · exact ⟨rfl, rfl⟩
    · simp only [hab, hcd, if_false, Prod.mk.injEq]
      constructor
      · rintro ⟨rfl, rfl⟩
        exact .inl ⟨rfl, rfl⟩
      · rintro (⟨rfl, rfl⟩ | ⟨rfl, rfl⟩)
        · exact ⟨rfl, rfl⟩
        · exact absurd ((String.le_total a b).resolve_left hab) hcd

theorem sortedPair_sortedPair (a b : String) :
    sortedPair (sortedPair a b).1 (sortedPair a b).2 = sortedPair a b := by
  by_cases h : a ≤ b
  · simp [sortedPair, h]
  · have : b ≤ a := (String.le_total a b).resolve_left h
    simp [sortedPair, h, this]

@[simp] theorem rank_canonical (s : Scalar) : s.canonical.rank = s.rank := by
  cases s <;> rfl

@[simp] theorem texts_canonical (s : Scalar) : s.canonical.texts = s.texts := by
  cases s with
  | pair a b => exact sortedPair_sortedPair a b
  | _ => rfl

@[simp] theorem numbers_canonical (s : Scalar) : s.canonical.numbers = s.numbers := by
  cases s <;> rfl

@[simp] theorem marks?_canonical (s : Scalar) : s.canonical.marks? = s.marks? := by
  cases s <;> rfl

@[simp] theorem bool?_canonical (s : Scalar) : s.canonical.bool? = s.bool? := by
  cases s <;> rfl

@[simp] theorem text?_canonical (s : Scalar) : s.canonical.text? = s.text? := by
  cases s <;> rfl

theorem canonical_canonical (s : Scalar) : s.canonical.canonical = s.canonical := by
  cases s with
  | pair a b => simp only [canonical, sortedPair_sortedPair]
  | _ => rfl

/-- A scalar is given by its parts, but for the places of the names of a pair. -/
theorem canonical_eq_of_parts (rank : s.rank = t.rank) (texts : s.texts = t.texts)
    (numbers : s.numbers = t.numbers) : s.canonical = t.canonical := by
  cases s <;> cases t <;> cases rank
  case boolean.boolean a b => cases a <;> cases b <;> first | rfl | cases numbers
  case integer.integer a b =>
    have : a = b := Int64.toInt_inj.1 (Prod.mk.inj numbers).1
    rw [this]
  case float.float a b =>
    have : a = b := Binary64.orderKey_inj (Prod.mk.inj numbers).1
    rw [this]
  case point.point a b c d =>
    have x : a = c := Int64.toInt_inj.1 (Prod.mk.inj numbers).1
    have y : b = d := Int64.toInt_inj.1 (Prod.mk.inj numbers).2
    rw [x, y]
  case duration.duration a b =>
    obtain ⟨n⟩ := a
    obtain ⟨m⟩ := b
    obtain rfl : n = m := (Prod.mk.inj numbers).1
    rfl
  case pair.pair a b c d =>
    have : sortedPair a b = sortedPair c d := texts
    simp only [canonical, this]
  all_goals
    cases texts
    rfl

/-! ## Agreement -/

/-- Scalars agree when they are of one kind and have the same texts and equal numbers. -/
theorem agrees_iff : s.agrees t = true ↔
    s.rank = t.rank ∧ s.texts = t.texts ∧
      ∃ marks, s.marks? = some marks ∧ t.marks? = some marks := by
  cases s <;> cases t
  case float.float x y =>
    simpa [agrees, rank, texts, marks?] using Binary64.beq_iff
  case pair.pair a b c d =>
    simp [agrees, rank, texts, marks?, numbers, sortedPair_eq_iff]
  case boolean.boolean a b =>
    cases a <;> cases b <;> simp [agrees, rank, texts, marks?, numbers]
  case duration.duration a b =>
    obtain ⟨n⟩ := a
    obtain ⟨m⟩ := b
    simpa [agrees, rank, texts, marks?, numbers] using eq_comm
  case integer.integer a b =>
    simpa [agrees, rank, texts, marks?, numbers, Int64.toInt_inj] using eq_comm
  case point.point x y v w =>
    simpa [agrees, rank, texts, marks?, numbers, Int64.toInt_inj] using and_congr eq_comm eq_comm
  all_goals simp [agrees, rank, texts, marks?, numbers]

theorem agrees_symm (h : s.agrees t = true) : t.agrees s = true := by
  obtain ⟨rank, texts, marks, hs, ht⟩ := agrees_iff.1 h
  exact agrees_iff.2 ⟨rank.symm, texts.symm, marks, ht, hs⟩

theorem agrees_trans (h : r.agrees s = true) (h' : s.agrees t = true) : r.agrees t = true := by
  obtain ⟨rank, texts, marks, hr, hs⟩ := agrees_iff.1 h
  obtain ⟨rank', texts', marks', hs', ht⟩ := agrees_iff.1 h'
  obtain rfl : marks = marks' := Option.some.inj (hs.symm.trans hs')
  exact agrees_iff.2 ⟨rank.trans rank', texts.trans texts', marks, hr, ht⟩

/-- Scalars that agree, agree with the same scalars. -/
theorem agrees_congr_left (h : r.agrees s = true) : r.agrees t = s.agrees t := by
  rw [Bool.eq_iff_iff]
  exact ⟨agrees_trans (agrees_symm h), agrees_trans h⟩

@[simp] theorem canonical_agrees (s t : Scalar) : s.canonical.agrees t = s.agrees t := by
  rw [Bool.eq_iff_iff, agrees_iff, agrees_iff]
  simp

@[simp] theorem agrees_canonical (s t : Scalar) : s.agrees t.canonical = s.agrees t := by
  rw [Bool.eq_iff_iff, agrees_iff, agrees_iff]
  simp

/-! ## The order -/

/-- The order compares the kinds, the texts and the numbers, one after the other. -/
theorem order_eq : order = compareLex (compareOn rank) (compareLex
    (compareLex (compareOn fun s => s.texts.1) (compareOn fun s => s.texts.2))
    (compareLex (compareOn fun s => s.numbers.1) (compareOn fun s => s.numbers.2))) := by
  funext s t
  cases s <;> cases t
  case boolean.boolean a b => cases a <;> cases b <;> rfl
  all_goals
    first
    | rfl
    | simp [order, compareLex, compareOn, rank, texts, numbers, comparePairs, Binary64.order]

/-- The order is transitive, and it turns around when its arguments do. -/
instance : Std.TransCmp order := by
  rw [order_eq]
  infer_instance

/-- Scalars that the order does not tell apart are identical, but for the places of the names of a
pair. -/
theorem canonical_eq_of_order (h : order s t = .eq) : s.canonical = t.canonical := by
  rw [order_eq] at h
  simp only [compareLex_eq_eq, compareOn, Std.LawfulEqOrd.compare_eq_iff_eq] at h
  obtain ⟨rank, ⟨first, second⟩, one, two⟩ := h
  exact canonical_eq_of_parts rank (Prod.ext first second) (Prod.ext one two)

@[simp] theorem order_canonical (s t : Scalar) : order s.canonical t.canonical = order s t := by
  simp [order_eq, compareLex, compareOn]

/-! ## Sorting -/

theorem pairwise_sort (ss : List Scalar) :
    (sort ss).Pairwise fun s t => (order s t).isLE = true := by
  have trans : ∀ r s t : Scalar, (order r s).isLE = true → (order s t).isLE = true →
      (order r t).isLE = true := fun _ _ _ => Std.TransCmp.isLE_trans
  have total : ∀ s t : Scalar, ((order s t).isLE || (order t s).isLE) = true := by
    intro s t
    have turned : order t s = (order s t).swap := Std.OrientedCmp.eq_swap
    rw [turned]
    cases order s t <;> rfl
  exact List.pairwise_mergeSort trans total ss

/-- Putting the names of pairs in order does not change how a collection is sorted. -/
theorem sort_map_canonical (ss : List Scalar) :
    sort (ss.map canonical) = (sort ss).map canonical := by
  refine (List.map_mergeSort fun s _ t _ => ?_).symm
  rw [order_canonical]

/-- However the scalars of a collection are arranged, the sorted collection is the same, once the
names of pairs are put in order. -/
theorem map_canonical_sort {ss ts : List Scalar} (h : ss.Perm ts) :
    (sort ss).map canonical = (sort ts).map canonical := by
  rw [← sort_map_canonical, ← sort_map_canonical]
  have perm : (sort (ss.map canonical)).Perm (sort (ts.map canonical)) :=
    ((List.mergeSort_perm _ _).trans (h.map canonical)).trans (List.mergeSort_perm _ _).symm
  refine List.Perm.eq_of_pairwise (fun s t hs ht le ge => ?_) (pairwise_sort _)
    (pairwise_sort _) perm
  -- Both are in canonical form, so they are identical when neither comes before the other.
  have fixed : ∀ {us : List Scalar} {u : Scalar},
      u ∈ sort (us.map canonical) → u.canonical = u := by
    intro us u hu
    obtain ⟨v, -, rfl⟩ := List.mem_map.1 ((List.mergeSort_perm _ _).mem_iff.1 hu)
    exact canonical_canonical v
  rw [← fixed hs, ← fixed ht]
  exact canonical_eq_of_order (Std.OrientedCmp.isLE_antisymm le ge)

end ItemScoring.Scalar
