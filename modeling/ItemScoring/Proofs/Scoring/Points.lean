import Mathlib
import ItemScoring.Proofs.Binary64.Pattern
import ItemScoring.Proofs.Binary64.Sums
import ItemScoring.Proofs.Scoring.Contributions

/-!
# The order of points

Points are scored in the order in which they are held, also those of an unordered variable. The
order of the points is the order of the terms of a floating-point sum, so it makes a difference
exactly when the sum depends on the order of its terms, and it makes none if nothing has to be
rounded.
-/

set_option autoImplicit false

namespace ItemScoring.Leaf

/-- The terms of the score of points: every area that contains one counts once, and every point that
is in no area counts the default. -/
def pointContributions (m : AreaMapping) (ss : List Scalar) : List Float :=
  contributions m.entries (fun p entry => entry.shape.contains p) (·.mappedValue)
    m.range.defaultValue [] (ss.filterMap pointOf?)

/-- Each order of what a collection is seen as comes from an order of the collection. -/
theorem exists_perm_filterMap {α β : Type} {f : α → Option β} {as : List α} {bs : List β}
    (perm : bs.Perm (as.filterMap f)) : ∃ cs : List α, cs.Perm as ∧ cs.filterMap f = bs := by
  induction bs generalizing as with
  | nil => exact ⟨as, .rfl, perm.nil_eq.symm⟩
  | cons b bs ih =>
      obtain ⟨a, mem, seen⟩ := List.mem_filterMap.1 (perm.subset List.mem_cons_self)
      obtain ⟨before, after, rfl⟩ := List.append_of_mem mem
      have front : (before ++ a :: after).Perm (a :: (before ++ after)) := List.perm_middle
      have others := perm.trans (front.filterMap f)
      rw [List.filterMap_cons_some seen, List.perm_cons] at others
      obtain ⟨cs, perm', same⟩ := ih others
      exact ⟨a :: cs, (perm'.cons a).trans front.symm, by rw [List.filterMap_cons_some seen, same]⟩

section Store

variable {e : Expression} {s : Session} {id : String} {v : Variable} {m : AreaMapping}
  (named : identifier e = .ok id) (found : s.find? id = some v) (mapped : v.areaMapping = some m)
  (points : v.baseType = some .point)
include named found mapped points

/-- The score of points is the sum of their terms, moved into the bounds. -/
theorem mapResponsePoint_store (ss : List Scalar) :
    mapResponsePoint e (s.store id (.list ss)) =
      .ok (some (.float (m.range.clamp ((pointContributions m ss).foldl (· + ·) 0)))) := by
  have sum : mapPoints m ss = (pointContributions m ss).foldl (· + ·) 0 := addScores_eq ..
  refine Result.bind_eq_ok.2 ⟨_, declared_store named found _, ?_⟩
  dsimp only
  rw [mapped, ← sum]
  exact if_neg (not_not.2 points)

/-- The order of the points of a variable does not matter for their score exactly when the order of
the terms does not matter for the sum, which holds if they can be added up without rounding. -/
theorem mapResponsePoint_order_iff (ss : List Scalar) :
    let score := fun ts => mapResponsePoint e (s.store id (.list ts))
    let sum := fun xs : List Float => m.range.clamp (xs.foldl (· + ·) 0)
    (∀ ts, score ts = .ok (some (.float (sum (pointContributions m ts))))) ∧
    ((∀ ts, ts.Perm ss → score ts = score ss) ↔
      ∀ xs, xs.Perm (pointContributions m ss) → sum xs = sum (pointContributions m ss)) ∧
    (Binary64.AddExactly (pointContributions m ss) → ∀ ts, ts.Perm ss → score ts = score ss) := by
  intro score sum
  have scored : ∀ ts, score ts = .ok (some (.float (sum (pointContributions m ts)))) := fun ts =>
    mapResponsePoint_store named found mapped points ts
  have same_iff : ∀ ts, score ts = score ss ↔
      sum (pointContributions m ts) = sum (pointContributions m ss) := by
    intro ts
    rw [scored, scored]
    simp [Value.float, Value.single]
  have terms : ∀ ts : List Scalar, ts.Perm ss →
      (pointContributions m ts).Perm (pointContributions m ss) := fun ts perm =>
    contributions_perm_of_perm _ _ _ _ _ (perm.filterMap _)
  refine ⟨scored, ⟨fun stable xs perm => ?_, fun stable ts perm => ?_⟩, fun exact ts perm => ?_⟩
  · obtain ⟨ps, seen, rfl⟩ := exists_perm_contributions _ _ _ _ perm
    obtain ⟨ts, held, rfl⟩ := exists_perm_filterMap seen
    exact (same_iff ts).1 (stable ts held)
  · exact (same_iff ts).2 (stable _ (terms ts perm))
  · rw [same_iff]
    exact congrArg m.range.clamp (Binary64.foldl_add_of_perm exact (terms ts perm))

end Store

/-- Three areas side by side. -/
def threeAreas (first second third : Float) : AreaMapping :=
  ⟨⟨none, none, 0⟩, [⟨.rect 0 0 9 9, first⟩, ⟨.rect 10 0 19 9, second⟩, ⟨.rect 20 0 29 9, third⟩]⟩

/-- The declaration of an unordered variable whose points are scored. -/
def pointSession (m : AreaMapping) : Session :=
  Session.empty.declare
    ⟨"RESPONSE", .multiple, some .point, .null, .null, .null, none, some m, none⟩

/-- One tenth, two tenths and three tenths make more when they are added in this order than when one
tenth comes last. -/
theorem order_of_points_matters :
    let e := Expression.leaf "mapResponsePoint" [("identifier", "RESPONSE")]
    let s := pointSession (threeAreas 0.1 0.2 0.3)
    [Scalar.point 15 5, .point 25 5, .point 5 5].Perm [.point 5 5, .point 15 5, .point 25 5] ∧
    mapResponsePoint e (s.store "RESPONSE" (.list [.point 5 5, .point 15 5, .point 25 5])) =
      .ok (some (.float 0.6000000000000001)) ∧
    mapResponsePoint e (s.store "RESPONSE" (.list [.point 15 5, .point 25 5, .point 5 5])) =
      .ok (some (.float 0.6)) ∧
    (0.6000000000000001 : Float) ≠ 0.6 := by
  intro e s
  have scored := mapResponsePoint_store (e := e) (s := s) rfl rfl rfl rfl
  have first : pointContributions (threeAreas 0.1 0.2 0.3)
      [.point 5 5, .point 15 5, .point 25 5] = [0.1, 0.2, 0.3] := by decide +kernel
  have second : pointContributions (threeAreas 0.1 0.2 0.3)
      [.point 15 5, .point 25 5, .point 5 5] = [0.2, 0.3, 0.1] := by decide +kernel
  have sum : [0.1, 0.2, 0.3].foldl (· + ·) (0 : Float) = 0.6000000000000001 := by decide +kernel
  have sum' : [0.2, 0.3, 0.1].foldl (· + ·) (0 : Float) = 0.6 := by decide +kernel
  refine ⟨@List.perm_append_comm _ [_, _] [_], ?_, ?_, by decide +kernel⟩
  · rw [scored, first, sum]
    rfl
  · rw [scored, second, sum']
    rfl

/-- Scores that are integers are added up without rounding, so the order of the points does not
matter. -/
theorem order_of_points_irrelevant :
    let e := Expression.leaf "mapResponsePoint" [("identifier", "RESPONSE")]
    let s := pointSession (threeAreas 1 2 3)
    mapResponsePoint e (s.store "RESPONSE" (.list [.point 15 5, .point 25 5, .point 5 5])) =
      mapResponsePoint e (s.store "RESPONSE" (.list [.point 5 5, .point 15 5, .point 25 5])) := by
  intro e s
  have terms : pointContributions (threeAreas 1 2 3)
      [.point 5 5, .point 15 5, .point 25 5] = [1, 2, 3] := by decide +kernel
  have exact : Binary64.AddExactly [1, 2, 3] := by
    refine ⟨0, [1, 2, 3], by decide, by decide, ?_, by decide⟩
    have integer : ∀ n : Nat, n < 2 ^ 53 → Binary64.IsMultiple 0 n (Float.ofNat n) := fun n few =>
      ⟨Binary64.isFinite_ofNat few, by rw [Binary64.value_ofNat few]; simp⟩
    exact .cons (integer 1 (by decide)) (.cons (integer 2 (by decide))
      (.cons (integer 3 (by decide)) .nil))
  exact (mapResponsePoint_order_iff (e := e) (s := s) rfl rfl rfl rfl _).2.2 (terms ▸ exact) _
    (@List.perm_append_comm _ [_, _] [_])

end ItemScoring.Leaf
