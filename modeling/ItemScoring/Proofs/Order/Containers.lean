import ItemScoring.Operator.Container
import ItemScoring.Proofs.Order.Operators

/-!
# Operators on collections

These operators look at scalars in the order in which collections hold them. Membership and
deletion test each scalar for itself. Whether a collection is part of another comes down to
counting: of every scalar, the part may have no more that agree with it than the whole has.
Operators that keep the order accept single values and sequences only.
-/

set_option autoImplicit false

namespace ItemScoring.Container

/-! ## Parts of collections -/

/-- Nothing but a scalar that agrees is taken out, and the others are all left. -/
theorem exists_of_takeOut? {wanted : Scalar} {ss others : List Scalar}
    (taken : takeOut? wanted ss = some others) :
    ∃ s, s.agrees wanted = true ∧ ss.Perm (s :: others) := by
  induction ss generalizing others with
  | nil => cases taken
  | cons s rest ih =>
      unfold takeOut? at taken
      split at taken
      next agree =>
        cases taken
        refine ⟨s, agree, .cons s ?_⟩
        cases last : rest.getLast? with
        | none =>
            obtain rfl := List.getLast?_eq_none_iff.1 last
            rfl
        | some t =>
            obtain ⟨before, rfl⟩ := List.getLast?_eq_some_iff.1 last
            rw [List.dropLast_concat]
            exact List.perm_append_comm
      next =>
        obtain ⟨left, taken', rfl⟩ := Option.map_eq_some_iff.1 taken
        obtain ⟨t, agree, perm⟩ := ih taken'
        exact ⟨t, agree, (perm.cons s).trans (.swap t s left)⟩

/-- Only if nothing agrees, nothing is taken out. -/
theorem exists_takeOut? {wanted s : Scalar} {ss : List Scalar} (mem : s ∈ ss)
    (agree : s.agrees wanted = true) : ∃ others, takeOut? wanted ss = some others := by
  induction ss with
  | nil => cases mem
  | cons t rest ih =>
      unfold takeOut?
      split
      next => exact ⟨_, rfl⟩
      next other =>
        rcases List.mem_cons.1 mem with rfl | later
        · exact absurd agree other
        · obtain ⟨others, taken⟩ := ih later
          exact ⟨t :: others, by rw [taken]; rfl⟩

theorem holdsEach_cons_iff {wanted : Scalar} {rest ss : List Scalar} :
    holdsEach (wanted :: rest) ss = true ↔
      ∃ others, takeOut? wanted ss = some others ∧ holdsEach rest others = true := by
  rw [holdsEach]
  cases takeOut? wanted ss with
  | none => simp
  | some others => simp

/-- Taking out one scalar that agrees with a wanted one lowers the counts of those that agree with
the wanted one. -/
theorem countP_takeOut? {wanted : Scalar} {ss others : List Scalar}
    (taken : takeOut? wanted ss = some others) (s : Scalar) :
    others.countP (·.agrees s) + (if wanted.agrees s then 1 else 0) = ss.countP (·.agrees s) := by
  obtain ⟨t, agree, perm⟩ := exists_of_takeOut? taken
  rw [perm.countP_eq, List.countP_cons, Scalar.agrees_congr_left agree]

/-- A collection is part of another when it has, of every scalar, no more that agree with it than
the other has. -/
theorem holdsEach_iff {wanted ss : List Scalar} :
    holdsEach wanted ss = true ↔ ∀ w ∈ wanted, w.agrees w = true ∧
      wanted.countP (·.agrees w) ≤ ss.countP (·.agrees w) := by
  induction wanted generalizing ss with
  | nil => simp [holdsEach]
  | cons w rest ih =>
      rw [holdsEach_cons_iff]
      constructor
      · rintro ⟨others, taken, parts⟩ v hv
        rw [ih] at parts
        obtain ⟨t, agree, perm⟩ := exists_of_takeOut? taken
        have enough : ∀ u ∈ rest, u.agrees u = true ∧
            (w :: rest).countP (·.agrees u) ≤ ss.countP (·.agrees u) := by
          intro u hu
          obtain ⟨self, fewer⟩ := parts u hu
          have count := countP_takeOut? taken u
          rw [List.countP_cons]
          exact ⟨self, by omega⟩
        rcases List.mem_cons.1 hv with rfl | hv
        · have self := Scalar.agrees_trans (Scalar.agrees_symm agree) agree
          refine ⟨self, ?_⟩
          by_cases another : ∃ u ∈ rest, u.agrees v = true
          · -- Another wanted scalar agrees with this one and counts the same scalars.
            obtain ⟨u, hu, agree⟩ := another
            have same : (fun t : Scalar => t.agrees u) = fun t => t.agrees v := by
              funext t
              rw [Bool.eq_iff_iff]
              exact ⟨fun h => Scalar.agrees_trans h agree,
                fun h => Scalar.agrees_trans h (Scalar.agrees_symm agree)⟩
            have bound := (enough u hu).2
            rw [same] at bound
            exact bound
          · have none : rest.countP (·.agrees v) = 0 := by
              rw [List.countP_eq_zero]
              exact fun u hu agree => another ⟨u, hu, agree⟩
            have count := countP_takeOut? taken v
            rw [List.countP_cons, none]
            omega
        · exact enough v hv
      · intro parts
        obtain ⟨self, bound⟩ := parts w List.mem_cons_self
        have some : 0 < ss.countP (·.agrees w) := by
          rw [List.countP_cons, if_pos self] at bound
          omega
        obtain ⟨s, mem, agree⟩ := List.countP_pos_iff.1 some
        obtain ⟨others, taken⟩ := exists_takeOut? mem agree
        refine ⟨others, taken, ih.2 fun v hv => ?_⟩
        obtain ⟨selfV, boundV⟩ := parts v (List.mem_cons_of_mem _ hv)
        have count := countP_takeOut? taken v
        rw [List.countP_cons] at boundV
        exact ⟨selfV, by omega⟩

/-- Whether a collection is part of another does not depend on how they are arranged. -/
theorem holdsEach_perm {wanted wanted' ss ss' : List Scalar} (first : wanted.Perm wanted')
    (second : ss.Perm ss') : holdsEach wanted ss = holdsEach wanted' ss' := by
  rw [Bool.eq_iff_iff, holdsEach_iff, holdsEach_iff]
  simp only [first.mem_iff, first.countP_eq, second.countP_eq]

/-! ## Building -/

/-- A list that is repeated may be arranged differently first. -/
theorem repeatList_perm {α : Type} (times : Nat) {xs ys : List α} (h : xs.Perm ys) :
    (repeatList times xs).Perm (repeatList times ys) := by
  unfold repeatList
  rw [h.isEmpty_eq]
  split
  · exact .refl _
  · induction times with
    | zero => exact .refl _
    | succ n ih =>
        rw [List.replicate_succ, List.replicate_succ, List.flatten_cons, List.flatten_cons]
        exact h.append ih

section

variable {i j : Invocation} (h : i.Reordered j)
include h

/-- The scalars of the operands are the same, perhaps arranged differently. -/
theorem allScalars_perm : (allScalars i).Perm (allScalars j) := by
  unfold allScalars
  have operands := h.operands
  generalize i.operands = os at operands ⊢
  generalize j.operands = os' at operands ⊢
  induction operands with
  | nil => exact .refl _
  | cons head _ ih =>
      rw [List.flatMap_cons, List.flatMap_cons]
      refine List.Perm.append ?_ ih
      cases head with
      | none => exact .refl _
      | some related => exact related.scalars_perm

/-- Single values and sequences keep their scalars in place. -/
theorem allScalars_eq {contract : Contract} (admits : ∀ o ∈ i.operands, contract.Admits o)
    (noMultiple : Cardinality.multiple ∉ contract.cardinalities) :
    allScalars i = allScalars j := by
  unfold allScalars
  have operands := (List.forall₂_and_left _ _).2 ⟨admits, h.operands⟩
  generalize i.operands = os at operands ⊢
  generalize j.operands = os' at operands ⊢
  induction operands with
  | nil => rfl
  | cons head _ ih =>
      rw [List.flatMap_cons, List.flatMap_cons, ih]
      obtain ⟨admitted, related⟩ := head
      cases related with
      | none => rfl
      | @some v w related =>
          simp only [Option.elim_some]
          cases null : v.isNull with
          | true =>
              rw [Value.scalars_of_isNull null, Value.scalars_of_isNull (related.isNull ▸ null)]
          | false =>
              have accepted := (admitted v rfl null).1
              rw [related.scalars_eq fun multiple => noMultiple (multiple ▸ accepted)]

/-- A value is built alike when the scalars are the same, perhaps arranged differently in a
collection. -/
theorem build_reordered {c : Cardinality} (times : Nat)
    (keeps : c ≠ .multiple → allScalars i = allScalars j) :
    Result.Reordered (build c times i) (build c times j) := by
  unfold build
  refine Result.Related.bind_eq h.commonBaseType fun b _ => ?_
  cases b with
  | none => exact Operand.Reordered.refl _
  | some b =>
      refine .some (Value.reordered_mk (Payload.reordered_ofScalars ?_ fun notMultiple => ?_))
      · exact repeatList_perm times (allScalars_perm h)
      · rw [keeps notMultiple]

theorem multiple_reordered : Result.Reordered (multiple i) (multiple j) :=
  build_reordered h 1 fun notMultiple => absurd rfl notMultiple

theorem repeated_reordered (eq : allScalars i = allScalars j) :
    Result.Reordered (repeated i) (repeated j) := by
  unfold repeated
  refine Result.Related.bind_eq (h.requiredInteger _) fun times _ => ?_
  rw [eq, h.expression]
  split
  · exact Result.Related.bind_eq h.commonBaseType fun b _ => Operand.Reordered.refl _
  split
  · rfl
  · exact build_reordered h _ fun _ => eq

/-! ## Looking into collections -/

theorem containerSize_reordered : containerSize i = containerSize j := by
  unfold containerSize
  rcases rel_cases (h.operand? 0) with ⟨left, right⟩ | ⟨v, w, left, right, related⟩
  · rw [left, right]
  · rw [left, right, Option.elim_some, Option.elim_some, related.scalars_perm.length_eq]

theorem member_reordered : member i = member j := by
  unfold member
  rw [h.commonBaseType, h.scalar?]
  rcases rel_cases (h.operand? 1) with ⟨left, right⟩ | ⟨v, w, left, right, related⟩
  · rw [left, right]
  · have anyAgrees (item : Scalar) :
        (v.scalars.any fun s => s.agrees item) = w.scalars.any fun s => s.agrees item :=
      related.scalars_perm.any_eq
    rw [left, right]
    cases j.scalar? 0 with
    | none => rfl
    | some item => simp only [anyAgrees]

theorem contains_reordered : contains i = contains j := by
  unfold contains
  rw [h.commonBaseType]
  rcases rel_cases (h.operand? 0) with ⟨left, right⟩ | ⟨a, a', left, right, first⟩
  · simp only [left, right]
  rcases rel_cases (h.operand? 1) with ⟨left', right'⟩ | ⟨b, b', left', right', second⟩
  · simp only [left, right, left', right']
  have part := holdsEach_perm second.scalars_perm first.scalars_perm
  simp only [left, right, left', right', Invocation.refuse, h.tag, ← first.cardinality,
    ← second.cardinality, part]
  by_cases same : a.cardinality = b.cardinality
  · by_cases isOrdered : a.cardinality = .ordered
    · rw [first.scalars_eq (by simp [isOrdered]), second.scalars_eq (by simp [← same, isOrdered])]
    · simp only [isOrdered, if_false]
  · simp only [ne_eq, same, not_false_eq_true, if_true]

theorem delete_reordered : Result.Reordered (delete i) (delete j) := by
  unfold delete
  refine Result.Related.bind_eq h.commonBaseType fun b _ => ?_
  have declared : (i.operands[1]?.join).elim Cardinality.multiple Value.cardinality =
      (j.operands[1]?.join).elim Cardinality.multiple Value.cardinality := by
    rcases rel_cases (rel_getElem? h.operands 1) with ⟨left, right⟩ | ⟨o, o', left, right, related⟩
    · rw [left, right]
    · rw [left, right]
      cases related with
      | none => rfl
      | some related => exact related.cardinality
  rw [declared, h.scalar?]
  rcases rel_cases (h.operand? 1) with ⟨left, right⟩ | ⟨v, w, left, right, related⟩
  · rw [left, right]
    exact Result.Reordered.of_eq rfl
  · rw [left, right]
    cases j.scalar? 0 with
    | none => exact Result.Reordered.of_eq rfl
    | some item =>
        cases b with
        | none => exact Result.Reordered.of_eq rfl
        | some b =>
            refine .some ?_
            rw [related.cardinality]
            refine Value.reordered_mk (Payload.reordered_ofScalars ?_ fun notMultiple => ?_)
            · exact related.scalars_perm.filter _
            · rw [related.scalars_eq (related.cardinality ▸ notMultiple)]

theorem declaredBaseType_reordered : declaredBaseType i = declaredBaseType j := by
  unfold declaredBaseType
  rcases rel_cases (rel_getElem? h.operands 0) with ⟨left, right⟩ | ⟨o, o', left, right, related⟩
  · rw [left, right]
  · rw [left, right]
    cases related with
    | none => rfl
    | some related => exact related.baseType

theorem index_reordered {contract : Contract} (admits : ∀ o ∈ i.operands, contract.Admits o)
    (noMultiple : Cardinality.multiple ∉ contract.cardinalities) : index i = index j := by
  unfold index
  rw [h.requiredInteger, declaredBaseType_reordered h]
  rcases rel_cases (h.operand? 0) with ⟨left, right⟩ | ⟨v, w, left, right, related⟩
  · rw [left, right]
  · have filled : v.isNull = false := (i.operand?_eq_some.1 left).2
    have accepted := (admits _ (i.mem_of_operand? left) v rfl filled).1
    have scalars := related.scalars_eq fun multiple => noMultiple (multiple ▸ accepted)
    rw [left, right]
    cases declaredBaseType j with
    | none => rfl
    | some b => simp only [scalars]

theorem fieldValue_reordered : Result.Reordered (fieldValue i) (fieldValue j) := by
  unfold fieldValue
  rw [h.expression]
  refine Result.Related.bind_eq rfl fun name _ => ?_
  rcases rel_cases (h.operand? 0) with ⟨left, right⟩ | ⟨v, w, left, right, related⟩
  · rw [left, right]
    exact Result.Reordered.of_eq rfl
  rw [left, right, Option.bind_some, Option.bind_some]
  rcases rel_cases related.fields? with ⟨left, right⟩ | ⟨fields, others, left, right, related⟩
  · rw [left, right]
    exact Result.Reordered.of_eq rfl
  rw [left, right, Option.bind_some, Option.bind_some]
  rcases rel_cases (related.lookup name) with ⟨left, right⟩ | ⟨field, other, left, right, related⟩
  · rw [left, right]
    exact Result.Reordered.of_eq rfl
  · rw [left, right]
    exact .some related

theorem inside_reordered : Area.inside i = Area.inside j := by
  unfold Area.inside
  rw [h.expression]
  rcases rel_cases (h.operand? 0) with ⟨left, right⟩ | ⟨v, w, left, right, related⟩
  · rw [left, right]
  · have anyHit (shape : Shape) :
        (v.scalars.any (Area.hits shape)) = w.scalars.any (Area.hits shape) :=
      related.scalars_perm.any_eq
    simp only [left, right, anyHit]

end

end ItemScoring.Container
