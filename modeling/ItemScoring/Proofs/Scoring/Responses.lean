import Mathlib
import ItemScoring.Proofs.Agreement
import ItemScoring.Proofs.Scoring.Contributions

/-!
# Scores of sets of responses

The scalars of an unordered variable are scored as a set: they are sorted, and of those that agree
one is kept. Which one is kept depends on the order in which they were given, but what stands for it
does not (`Scalar.representative`), and entries apply to a scalar exactly when they apply to what
stands for it. So the terms of the score and their order, and with them the sum, are those of the
sorted list of what stands for the scalars (`IsRepresentatives`).
-/

set_option autoImplicit false

namespace ItemScoring

namespace Scalar

/-- The representatives of a collection of scalars, each of them once and in ascending order. -/
structure IsRepresentatives (rs ss : List Scalar) : Prop where
  ascending : rs.Pairwise fun r r' => order r r' = .lt
  mem_iff : ∀ r, r ∈ rs ↔ r ∈ ss.map representative

/-- The representatives of a collection are determined by what its scalars agree with. -/
theorem IsRepresentatives.unique {rs rs' ss ts : List Scalar} (first : IsRepresentatives rs ss)
    (second : IsRepresentatives rs' ts)
    (same : ∀ r, r ∈ ss.map representative ↔ r ∈ ts.map representative) : rs = rs' := by
  have irreflexive : Std.Irrefl fun r r' : Scalar => order r r' = .lt :=
    ⟨fun r less => by
      have same : order r r = .eq := Std.ReflCmp.compare_self
      rw [same] at less
      cases less⟩
  have asymmetric : Std.Asymm fun r r' : Scalar => order r r' = .lt :=
    ⟨fun r r' less greater => by
      rw [Std.OrientedCmp.gt_of_lt less] at greater
      cases greater⟩
  refine first.ascending.eq_of_mem_iff second.ascending fun r => ?_
  rw [first.mem_iff, second.mem_iff, same]

/-- Scalars that agree with scalars of each other have the same representatives. -/
theorem mem_representatives_of_agrees {ss ts : List Scalar}
    (covers : ∀ s ∈ ss, ∃ t ∈ ts, s.agrees t = true) {r : Scalar}
    (h : r ∈ ss.map representative) : r ∈ ts.map representative := by
  obtain ⟨s, mem, rfl⟩ := List.mem_map.1 h
  obtain ⟨t, mem', agree⟩ := covers s mem
  exact List.mem_map.2 ⟨t, mem', (representative_eq_of_agrees agree).symm⟩

end Scalar

namespace Leaf

open Scalar

/-! ## Scalars that are kept -/

theorem mem_distinct {sofar ss : List Scalar} {r : Scalar} :
    r ∈ (distinct sofar ss).map representative ↔
      r ∈ sofar.map representative ∨ r ∈ ss.map representative := by
  induction ss generalizing sofar with
  | nil => simp [distinct]
  | cons s rest ih =>
      rw [distinct]
      split
      next known =>
        obtain ⟨d, mem, agree⟩ := List.any_eq_true.1 known
        have there : s.representative ∈ sofar.map representative :=
          List.mem_map.2 ⟨d, mem, representative_eq_of_agrees agree⟩
        rw [ih, List.map_cons, List.mem_cons]
        constructor
        · exact Or.imp_right .inr
        · rintro (before | rfl | after)
          · exact .inl before
          · exact .inl there
          · exact .inr after
      next new =>
        rw [ih, List.map_cons, List.map_cons, List.mem_cons, List.mem_cons]
        tauto

/-- The scalars that are kept are among the given ones, in their order. -/
theorem distinct_sublist (sofar ss : List Scalar) :
    (distinct sofar ss).Sublist (sofar.reverse ++ ss) := by
  induction ss generalizing sofar with
  | nil => simp [distinct]
  | cons s rest ih =>
      rw [distinct]
      split
      · exact (ih sofar).trans ((List.sublist_cons_self s rest).append_left _)
      · have front := ih (s :: sofar)
        rwa [List.reverse_cons, List.append_assoc] at front

theorem nodup_distinct {sofar ss : List Scalar} (nodup : (sofar.map representative).Nodup)
    (selves : ∀ s ∈ ss, s.agrees s = true) :
    ((distinct sofar ss).map representative).Nodup := by
  induction ss generalizing sofar with
  | nil =>
      rw [distinct, List.map_reverse]
      exact List.nodup_reverse.2 nodup
  | cons s rest ih =>
      obtain ⟨itself, selves⟩ := List.forall_mem_cons.1 selves
      rw [distinct]
      split
      · exact ih nodup selves
      next new =>
        refine ih (List.nodup_cons.2 ⟨fun known => new ?_, nodup⟩) selves
        obtain ⟨d, mem, same⟩ := List.mem_map.1 known
        exact List.any_eq_true.2 ⟨d, mem, agrees_of_representative_eq itself same⟩

/-- What stands for the scalars that are kept of a sorted collection. -/
theorem isRepresentatives_distinct {ss : List Scalar} (selves : ∀ s ∈ ss, s.agrees s = true) :
    IsRepresentatives ((distinct [] (sort ss)).map representative) ss := by
  have perm : (sort ss).Perm ss := List.mergeSort_perm ss _
  have nodup : ((distinct [] (sort ss)).map representative).Nodup :=
    nodup_distinct .nil fun s mem => selves s (perm.mem_iff.1 mem)
  have sorted : ((distinct [] (sort ss)).map representative).Pairwise
      fun r r' => (order r r').isLE = true :=
    List.pairwise_map.2 (((pairwise_sort ss).sublist (distinct_sublist [] _)).imp
      order_representative)
  refine ⟨?_, fun r => ?_⟩
  · -- What stands for scalars is the same when the order cannot tell it apart.
    refine (sorted.and nodup).imp_of_mem fun {r r'} mem mem' h => ?_
    obtain ⟨s, -, rfl⟩ := List.mem_map.1 mem
    obtain ⟨t, -, rfl⟩ := List.mem_map.1 mem'
    obtain ⟨le, differ⟩ := h
    refine (Ordering.isLE_iff_eq_lt_or_eq_eq.1 le).resolve_right fun same => differ ?_
    rw [← canonical_representative s, ← canonical_representative t]
    exact canonical_eq_of_order same
  · rw [mem_distinct, (perm.map _).mem_iff]
    simp

/-- An entry applies to a scalar when it applies to what stands for it. -/
theorem keyApplies_representative (s : Scalar) (entry : MapEntry) :
    keyApplies s.representative entry = keyApplies s entry := by
  have text : s.representative.text? = s.text? := by cases s <;> rfl
  have agree : entry.key.agrees s.representative = entry.key.agrees s := by
    rw [Bool.eq_iff_iff]
    exact ⟨fun h => agrees_symm (representative_agrees s _ ▸ agrees_symm h),
      fun h => agrees_symm (representative_agrees s _ ▸ agrees_symm h)⟩
  rw [keyApplies, keyApplies, text, agree]

/-! ## Scores -/

/-- The terms of the score of scalars: every entry that applies to one counts once, and every scalar
to which no entry applies counts the default. -/
def responseContributions (m : Mapping) (rs : List Scalar) : List Float :=
  contributions m.entries keyApplies (·.mappedValue) m.range.defaultValue [] rs

/-- The score of an unordered collection is that of its representatives. -/
theorem mapScalars_eq (m : Mapping) {b : Option BaseType} {rs ss : List Scalar}
    (fits : ∀ s ∈ ss, s.FitsIn b) (selves : ∀ s ∈ ss, s.agrees s = true)
    (h : IsRepresentatives rs ss) :
    mapScalars m .multiple b (.list ss) = (responseContributions m rs).foldl (· + ·) 0 := by
  have normalized : (Payload.list ss).normalized .multiple b = sort ss :=
    Comparison.normalized_of_fits fits
  have applies : (fun s => keyApplies (representative s)) = keyApplies :=
    funext fun s => funext (keyApplies_representative s)
  have listed : rs = (distinct [] (sort ss)).map representative :=
    h.unique (isRepresentatives_distinct selves) fun r => Iff.rfl
  rw [mapScalars, addScores_eq, normalized, responseContributions, listed, ← contributions_map,
    applies]

section Store

variable {e : Expression} {s : Session} {id : String} {v : Variable} {m : Mapping}
  (named : identifier e = .ok id) (found : s.find? id = some v) (mapped : v.mapping = some m)
  (multiple : v.cardinality = .multiple)
include named found mapped multiple

theorem mapResponse_store {rs ss : List Scalar} (fits : ∀ t ∈ ss, t.FitsIn v.baseType)
    (selves : ∀ t ∈ ss, t.agrees t = true) (h : IsRepresentatives rs ss) :
    mapResponse e (s.store id (.list ss)) =
      .ok (some (.float (m.range.clamp ((responseContributions m rs).foldl (· + ·) 0)))) := by
  refine Result.bind_eq_ok.2 ⟨_, declared_store named found _, ?_⟩
  dsimp only
  rw [mapped, ← mapScalars_eq m fits selves h, ← multiple]
  rfl

/-- The score of an unordered variable depends on nothing but the set of its responses: two
collections of which every scalar agrees with one of the other have the same score, the sum of the
terms of their common representatives. -/
theorem mapResponse_of_same_set {ss ts : List Scalar} (first : ∀ t ∈ ss, t.FitsIn v.baseType)
    (second : ∀ t ∈ ts, t.FitsIn v.baseType) (covers : ∀ a ∈ ss, ∃ b ∈ ts, a.agrees b = true)
    (covered : ∀ b ∈ ts, ∃ a ∈ ss, b.agrees a = true) :
    ∃ rs, IsRepresentatives rs ss ∧
      let score := m.range.clamp ((responseContributions m rs).foldl (· + ·) 0)
      mapResponse e (s.store id (.list ss)) = .ok (some (.float score)) ∧
        mapResponse e (s.store id (.list ts)) = .ok (some (.float score)) := by
  have selves : ∀ a ∈ ss, a.agrees a = true := fun a mem => by
    obtain ⟨b, -, agree⟩ := covers a mem
    exact agrees_trans agree (agrees_symm agree)
  have selves' : ∀ b ∈ ts, b.agrees b = true := fun b mem => by
    obtain ⟨a, -, agree⟩ := covered b mem
    exact agrees_trans agree (agrees_symm agree)
  have listed := isRepresentatives_distinct selves
  have listed' : IsRepresentatives ((distinct [] (sort ss)).map representative) ts :=
    ⟨listed.ascending, fun r => (listed.mem_iff r).trans
      ⟨mem_representatives_of_agrees covers, mem_representatives_of_agrees covered⟩⟩
  exact ⟨_, listed, mapResponse_store named found mapped multiple first selves listed,
    mapResponse_store named found mapped multiple second selves' listed'⟩

end Store

/-- An unordered variable of pairs, of which one is scored. -/
def pairSession : Session :=
  Session.empty.declare
    ⟨"RESPONSE", .multiple, some .pair, .null, .null, .null,
      some ⟨⟨none, none, 0.5⟩, [⟨.pair "B" "A", 1, true⟩]⟩, none, none⟩

/-- Pairs have the same score when they are given in another order, the other way round and
repeatedly. -/
theorem score_of_pairs_turned_round :
    let e := Expression.leaf "mapResponse" [("identifier", "RESPONSE")]
    mapResponse e (pairSession.store "RESPONSE"
        (.list [.pair "D" "C", .pair "A" "B", .pair "B" "A"])) = .ok (some (.float 1.5)) ∧
      mapResponse e (pairSession.store "RESPONSE" (.list [.pair "B" "A", .pair "C" "D"])) =
        .ok (some (.float 1.5)) := by
  intro e
  have fits : ∀ t ∈ [Scalar.pair "D" "C", .pair "A" "B", .pair "B" "A"], t.FitsIn (some .pair) := by
    simp [Scalar.fits]
  have fits' : ∀ t ∈ [Scalar.pair "B" "A", .pair "C" "D"], t.FitsIn (some .pair) := by
    simp [Scalar.fits]
  obtain ⟨rs, listed, first, second⟩ := mapResponse_of_same_set (e := e) (s := pairSession)
    rfl rfl rfl rfl fits fits' (by decide +kernel) (by decide +kernel)
  have same : rs = [.pair "A" "B", .pair "C" "D"] := by
    have ascending : order (.pair "A" "B") (.pair "C" "D") = .lt := by decide +kernel
    have representatives : [Scalar.pair "D" "C", .pair "A" "B", .pair "B" "A"].map representative =
        [.pair "C" "D", .pair "A" "B", .pair "A" "B"] := by
      simp [representative, canonical, sortedPair]
    refine listed.unique ⟨List.pairwise_pair.2 ascending, fun r => ?_⟩ fun r => Iff.rfl
    rw [representatives]
    simp only [List.mem_cons, List.not_mem_nil]
    tauto
  have terms : responseContributions ⟨⟨none, none, 0.5⟩, [⟨.pair "B" "A", 1, true⟩]⟩ rs =
      [1, 0.5] := by
    rw [same]
    decide +kernel
  have sum : [1, 0.5].foldl (· + ·) (0 : Float) = 1.5 := by decide +kernel
  rw [terms, sum] at first second
  exact ⟨first, second⟩

end Leaf

end ItemScoring
