import Mathlib.Data.Fintype.EquivFin
import Mathlib.Data.List.FinRange
import Mathlib.Data.List.Perm.Basic
import Mathlib.Data.List.Perm.Subperm

/-!
# Pairing the items of two lists

The items of one list can be paired with items of another, each with one of its own, when the other
list has a part that is related to the first place by place, up to the order of that part. When all
items of the other list are taken too, the part is the whole list. Pairings are functions on
positions, since a list may hold one item more than once.
-/

set_option autoImplicit false

namespace ItemScoring.Pairing

variable {α β : Type} {R : α → β → Prop} {xs : List α} {ys : List β}

/-- Items at different positions are a part of the list. -/
theorem subperm_map_get {positions : List (Fin ys.length)} (distinct : positions.Nodup) :
    (positions.map ys.get).Subperm ys := by
  obtain ⟨arranged, perm, part⟩ : positions.Subperm (List.finRange ys.length) :=
    distinct.subperm fun k _ => List.mem_finRange k
  have items : (arranged.map ys.get).Sublist ys := by
    have mapped := part.map ys.get
    rwa [List.map_get_finRange] at mapped
  exact ⟨arranged.map ys.get, perm.map _, items⟩

/-- The items of a part stand at different positions of the list. -/
theorem exists_positions {zs : List β} (h : zs.Subperm ys) :
    ∃ positions : List (Fin ys.length), positions.Nodup ∧ positions.map ys.get = zs := by
  obtain ⟨arranged, perm, part⟩ := h
  rw [← List.map_get_finRange ys, List.sublist_map_iff] at part
  obtain ⟨standing, part, rfl⟩ := part
  have both : Relation.Comp (· = List.map ys.get ·) List.Perm zs standing := by
    rw [List.eq_map_comp_perm]
    exact perm.symm
  obtain ⟨positions, rfl, same⟩ := both
  exact ⟨positions, same.nodup_iff.2 (part.nodup (List.nodup_finRange _)), rfl⟩

/-- Every item of a list has an item of its own in another list when the other list has a part, in
some order, that is related to the first list place by place. -/
theorem exists_injective_iff :
    (∃ f : Fin xs.length → Fin ys.length, Function.Injective f ∧
      ∀ k, R (xs.get k) (ys.get (f k))) ↔
      ∃ zs, zs.Subperm ys ∧ List.Forall₂ R xs zs := by
  constructor
  · rintro ⟨f, injective, related⟩
    have distinct : ((List.finRange xs.length).map f).Nodup :=
      (List.nodup_finRange _).map injective
    refine ⟨_, subperm_map_get distinct, ?_⟩
    have places : List.Forall₂ R ((List.finRange xs.length).map xs.get)
        (((List.finRange xs.length).map f).map ys.get) := by
      rw [List.map_map, List.forall₂_map_left_iff, List.forall₂_map_right_iff]
      exact List.forall₂_same.2 fun k _ => related k
    rwa [List.map_get_finRange] at places
  · rintro ⟨zs, part, related⟩
    obtain ⟨positions, distinct, rfl⟩ := exists_positions part
    have count : xs.length = positions.length := by simpa using related.length_eq
    refine ⟨fun k => positions.get (k.cast count), ?_, fun k => ?_⟩
    · exact (List.nodup_iff_injective_get.1 distinct).comp (Fin.cast_injective count)
    · have here := related.get k.isLt (by simp [← count])
      simpa using here

/-- The items of two lists are in one-to-one correspondence when the second list, in some order, is
related to the first place by place. -/
theorem exists_equiv_iff :
    (∃ e : Fin xs.length ≃ Fin ys.length, ∀ k, R (xs.get k) (ys.get (e k))) ↔
      ∃ zs, zs.Perm ys ∧ List.Forall₂ R xs zs := by
  constructor
  · rintro ⟨e, related⟩
    obtain ⟨zs, part, places⟩ := exists_injective_iff.1 ⟨e, e.injective, related⟩
    have count : xs.length = ys.length := by simpa using Fintype.card_congr e
    exact ⟨zs, part.perm_of_length_le (by rw [← places.length_eq, count]), places⟩
  · rintro ⟨zs, perm, places⟩
    obtain ⟨f, injective, related⟩ := exists_injective_iff.2 ⟨zs, perm.subperm, places⟩
    have count : Fintype.card (Fin xs.length) = Fintype.card (Fin ys.length) := by
      rw [Fintype.card_fin, Fintype.card_fin, places.length_eq, perm.length_eq]
    have bijective := (Fintype.bijective_iff_injective_and_card f).2 ⟨injective, count⟩
    exact ⟨Equiv.ofBijective f bijective, related⟩

end ItemScoring.Pairing
