import Mathlib.Data.List.Forall2
import ItemScoring.Proofs.Agreement

/-!
# The order of scalars

The order in which collections are sorted is a total preorder of the scalars of all kinds. It tells
all scalars apart but those that are identical up to the places of the names of a pair
(`order_eq_iff_alike`); floating-point numbers are told apart by their bit patterns. So all
arrangements of a collection are sorted alike. Agreement is coarser in one point: zero and minus
zero agree, and they are the only scalars that agree and have different places in the order
(`alike_or_oppositeZeros`).
-/

set_option autoImplicit false

namespace ItemScoring.Scalar

variable {s t : Scalar}

/-! ## Scalars in one place of the order -/

/-- Scalars are alike when they are identical or are one pair with its names in either order. -/
inductive Alike : Scalar → Scalar → Prop where
  | same (s : Scalar) : Alike s s
  | turned (a b : String) : Alike (.pair a b) (.pair b a)

theorem canonical_eq_self (notPair : s.rank ≠ 6) : s.canonical = s := by
  cases s with
  | pair a b => exact absurd rfl notPair
  | _ => rfl

theorem exists_pair_of_rank (h : s.rank = 6) : ∃ a b, s = .pair a b := by
  cases s with
  | pair a b => exact ⟨a, b, rfl⟩
  | _ => cases h

/-- Scalars are alike when they are identical once the names of pairs are put in order. -/
theorem alike_iff_canonical : Alike s t ↔ s.canonical = t.canonical := by
  constructor
  · rintro (⟨s⟩ | ⟨a, b⟩)
    · rfl
    · have sorted : sortedPair a b = sortedPair b a := sortedPair_eq_iff.2 (.inr ⟨rfl, rfl⟩)
      simp only [canonical, sorted]
  · intro h
    have kind : s.rank = t.rank := by rw [← rank_canonical s, h, rank_canonical]
    by_cases pair : s.rank = 6
    · obtain ⟨a, b, rfl⟩ := exists_pair_of_rank pair
      obtain ⟨c, d, rfl⟩ := exists_pair_of_rank (kind.symm.trans pair)
      obtain ⟨first, second⟩ := Scalar.pair.inj h
      rcases sortedPair_eq_iff.1 (Prod.ext first second) with ⟨rfl, rfl⟩ | ⟨rfl, rfl⟩
      · exact .same _
      · exact .turned _ _
    · rw [canonical_eq_self pair, canonical_eq_self (kind ▸ pair)] at h
      exact h ▸ .same s

/-- The order tells all scalars apart that are not alike. -/
theorem order_eq_iff_alike : order s t = .eq ↔ Alike s t := by
  rw [alike_iff_canonical]
  refine ⟨canonical_eq_of_order, fun same => ?_⟩
  rw [← order_canonical, same]
  exact Std.ReflCmp.compare_self

/-- Floating-point numbers are alike when they have one bit pattern. -/
theorem alike_float_iff {x y : Binary64} :
    Alike (.float x) (.float y) ↔ x.bits = y.bits := by
  constructor
  · rintro ⟨⟩
    rfl
  · intro same
    obtain ⟨p⟩ := x
    obtain ⟨q⟩ := y
    obtain rfl : p = q := same
    exact .same _

/-! ## Agreement and the order -/

/-- One of the scalars is the number zero and the other is minus zero. -/
def OppositeZeros (s t : Scalar) : Prop :=
  (s = .float (.ofFloat 0) ∧ t = .float (.ofFloat (-0.0))) ∨
    (s = .float (.ofFloat (-0.0)) ∧ t = .float (.ofFloat 0))

theorem OppositeZeros.agrees (h : OppositeZeros s t) : s.agrees t = true := by
  rcases h with ⟨rfl, rfl⟩ | ⟨rfl, rfl⟩ <;> decide +kernel

theorem OppositeZeros.order_ne (h : OppositeZeros s t) : order s t ≠ .eq := by
  rcases h with ⟨rfl, rfl⟩ | ⟨rfl, rfl⟩ <;> decide +kernel

/-- Zeros are identical or opposite. -/
theorem alike_or_oppositeZeros_of_zero {x y : Binary64} (first : (x.toFloat == 0) = true)
    (second : (y.toFloat == 0) = true) :
    Alike (.float x) (.float y) ∨ OppositeZeros (.float x) (.float y) := by
  rcases Binary64.toFloat_beq_zero_iff.1 first with rfl | rfl <;>
    rcases Binary64.toFloat_beq_zero_iff.1 second with rfl | rfl
  · exact .inl (.same _)
  · exact .inr (.inl ⟨rfl, rfl⟩)
  · exact .inr (.inr ⟨rfl, rfl⟩)
  · exact .inl (.same _)

/-- Scalars that agree are alike, but for the two zeros. -/
theorem alike_or_oppositeZeros (agree : s.agrees t = true) : Alike s t ∨ OppositeZeros s t := by
  have kind : s.rank = t.rank := (agrees_iff.1 agree).1
  by_cases float : s.rank = 3
  · obtain ⟨x, rfl⟩ := exists_float_of_rank float
    obtain ⟨y, rfl⟩ := exists_float_of_rank (kind.symm.trans float)
    rcases Binary64.eq_or_zero_of_toFloat_beq agree with rfl | ⟨first, second⟩
    · exact .inl (.same _)
    · exact alike_or_oppositeZeros_of_zero first second
  · -- Scalars of other kinds are their own representatives, up to the names of a pair.
    left
    rw [alike_iff_canonical, ← representative_eq_canonical float,
      ← representative_eq_canonical (kind ▸ float)]
    exact representative_eq_of_agrees agree

/-- Whenever scalars agree they have one place in the order, unless they are the two zeros. -/
theorem order_eq_of_agrees_iff (s t : Scalar) :
    (s.agrees t = true → order s t = .eq) ↔ ¬ OppositeZeros s t := by
  constructor
  · exact fun together zeros => zeros.order_ne (together zeros.agrees)
  · intro others agree
    exact order_eq_iff_alike.2 ((alike_or_oppositeZeros agree).resolve_right others)

/-- Zero and minus zero agree, and zero comes after minus zero. -/
theorem zeros_apart :
    (Scalar.float (.ofFloat 0)).agrees (.float (.ofFloat (-0.0))) = true ∧
      order (.float (.ofFloat 0)) (.float (.ofFloat (-0.0))) = .gt ∧
      order (.float (.ofFloat (-0.0))) (.float (.ofFloat 0)) = .lt := by
  decide +kernel

/-! ## Sorting -/

/-- A comparison by which all things can be put in order, some of them perhaps in one place. -/
structure IsTotalPreorder {α : Type} (cmp : α → α → Ordering) : Prop where
  refl (a : α) : cmp a a = .eq
  swap (a b : α) : cmp b a = (cmp a b).swap
  total (a b : α) : (cmp a b).isLE = true ∨ (cmp b a).isLE = true
  trans (a b c : α) (first : (cmp a b).isLE = true) (second : (cmp b c).isLE = true) :
    (cmp a c).isLE = true

theorem isTotalPreorder_order : IsTotalPreorder order where
  refl _ := Std.ReflCmp.compare_self
  swap _ _ := Std.OrientedCmp.eq_swap
  total s t := by
    have turned : order t s = (order s t).swap := Std.OrientedCmp.eq_swap
    rw [turned]
    cases order s t <;> decide
  trans _ _ _ := Std.TransCmp.isLE_trans

/-- No scalar comes after one behind it. -/
def Ascending (ss : List Scalar) : Prop := ss.Pairwise fun s t => (order s t).isLE = true

/-- However the scalars of a collection are arranged, they are sorted alike. -/
theorem forall₂_alike_sort {ss ts : List Scalar} (h : ss.Perm ts) :
    List.Forall₂ Alike (sort ss) (sort ts) := by
  have same := map_canonical_sort h
  rw [← List.forall₂_eq_eq_eq, List.forall₂_map_left_iff, List.forall₂_map_right_iff] at same
  exact same.imp fun _ _ => alike_iff_canonical.2

/-- The order is a total preorder that tells all scalars apart but those that are alike;
floating-point numbers are alike only when they have one bit pattern. Sorting keeps the scalars of a
collection and puts them in order, and all arrangements of a collection are sorted alike. -/
theorem sort_canonical :
    IsTotalPreorder order ∧
    (∀ s t : Scalar, order s t = .eq ↔ Alike s t) ∧
    (∀ x y : Binary64, Alike (.float x) (.float y) ↔ x.bits = y.bits) ∧
    ∀ ss ts : List Scalar, ss.Perm ts →
      ((sort ss).Perm ss ∧ Ascending (sort ss)) ∧ ((sort ts).Perm ss ∧ Ascending (sort ts)) ∧
      List.Forall₂ Alike (sort ss) (sort ts) := by
  refine ⟨isTotalPreorder_order, fun _ _ => order_eq_iff_alike, fun _ _ => alike_float_iff,
    fun ss ts perm => ⟨⟨?_, ?_⟩, ⟨?_, ?_⟩, ?_⟩⟩
  · exact List.mergeSort_perm ss _
  · exact pairwise_sort ss
  · exact (List.mergeSort_perm ts _).trans perm.symm
  · exact pairwise_sort ts
  · exact forall₂_alike_sort perm

end ItemScoring.Scalar
