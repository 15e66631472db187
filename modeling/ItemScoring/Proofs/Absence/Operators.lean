import ItemScoring.Proofs.NullPropagation
import ItemScoring.Proofs.Views

/-!
# Operators do not see in which form an operand is NULL

An operand is NULL by being absent, or by being the NULL of some cardinality and base type.
Operators look past all of these forms alike: put any one in the place of any other, and an
operator yields the same, or NULL again in some form, or it reports the same error. The shape of a
NULL operand shows only in the shape of a NULL result.
-/

set_option autoImplicit false

namespace ItemScoring

/-! ## Operands up to the form of NULL -/

namespace Operand

/-- The same operand, or NULL in any two forms. -/
def EqOrNull (o o' : Operand) : Prop := o = o' ∨ (o.isNull = true ∧ o'.isNull = true)

theorem EqOrNull.filled {o o' : Operand} (h : EqOrNull o o') : o.filled = o'.filled := by
  rcases h with rfl | ⟨null, null'⟩
  · rfl
  · rw [filled_of_isNull null, filled_of_isNull null']

/-- What is the same for all forms of NULL is found without them. -/
theorem eq_of_filled {α : Type} {f : Operand → α}
    (blind : ∀ o : Operand, o.isNull = true → f o = f none) (o : Operand) : f o.filled = f o := by
  cases null : o.isNull with
  | true => rw [filled_of_isNull null, blind o null]
  | false => rw [filled_of_not_isNull null]

/-- What is the same for all forms of NULL is the same for operands that differ in these only. -/
theorem map_eq_of_filled {α : Type} {f : Operand → α}
    (blind : ∀ o : Operand, o.isNull = true → f o = f none) {os os' : List Operand}
    (h : os.map filled = os'.map filled) : os.map f = os'.map f := by
  have through : f = f ∘ filled := funext fun o => (eq_of_filled blind o).symm
  rw [through, ← List.map_map, ← List.map_map, h]

theorem map_filled_of_not_anyNull {os : List Operand} (none : anyNull os = false) :
    os.map filled = os := by
  have each : ∀ o ∈ os, o.filled = id o := by
    intro o ho
    refine filled_of_not_isNull ?_
    have := List.any_eq_false.1 none o ho
    simpa using this
  rw [List.map_congr_left each, List.map_id]

end Operand

theorem Operand.scalars_of_isNull {o : Operand} (null : o.isNull = true) :
    Option.elim o [] Value.scalars = [] := by
  cases o with
  | none => rfl
  | some v => exact Value.scalars_of_isNull null

/-! ## Invocations up to the form of NULL -/

/-- The same invocation, except that operands may be NULL in other forms, and sessions may differ
where attributes do not refer to. -/
structure Invocation.EqOrNull (i j : Invocation) : Prop where
  expression : i.expression = j.expression
  operands : List.Forall₂ Operand.EqOrNull i.operands j.operands
  references : i.session.SameReferences j.session

namespace Invocation.EqOrNull

variable {i j : Invocation} (h : i.EqOrNull j)
include h

theorem map_filled : i.operands.map Operand.filled = j.operands.map Operand.filled := by
  have operands := h.operands
  generalize i.operands = os at operands ⊢
  generalize j.operands = os' at operands ⊢
  induction operands with
  | nil => rfl
  | cons head _ ih => rw [List.map_cons, List.map_cons, head.filled, ih]

theorem shapes : i.operands.map Operand.shape? = j.operands.map Operand.shape? :=
  Operand.map_eq_of_filled (fun _ null => Operand.shape?_of_isNull null) h.map_filled

theorem operand? (index : Nat) : i.operand? index = j.operand? index := by
  have seen : ∀ k : Invocation,
      k.operand? index = (k.operands.map Operand.filled)[index]?.join := by
    intro k
    unfold Invocation.operand?
    rw [List.getElem?_map]
    cases k.operands[index]? with
    | none => rfl
    | some o => rfl
  rw [seen, seen, h.map_filled]

theorem scalar? (index : Nat) : i.scalar? index = j.scalar? index := by
  unfold Invocation.scalar?
  rw [h.operand?]

theorem stream : Operand.stream i.operands = Operand.stream j.operands := by
  unfold Operand.stream
  rw [List.flatMap_def, List.flatMap_def,
    Operand.map_eq_of_filled (fun _ null => Operand.stream_of_isNull null) h.map_filled]

theorem allScalars : Container.allScalars i = Container.allScalars j := by
  unfold Container.allScalars
  rw [List.flatMap_def, List.flatMap_def,
    Operand.map_eq_of_filled (fun _ null => Operand.scalars_of_isNull null) h.map_filled]

/-- Invocations that differ in the form of NULL are alike. -/
theorem alike : i.Alike j where
  expression := h.expression
  references := h.references.ofExpression i.expression
  shapes := h.shapes
  scalar? := h.scalar?
  quantities := by
    unfold Quantity.ofOperands
    rw [h.stream]
  truthValues := by
    unfold Logic.truthValues
    rw [h.stream]

/-- Without NULL there is no difference between the operands. -/
theorem operands_eq (none : i.anyNull = false) : i.operands = j.operands := by
  have none' : j.anyNull = false := h.alike.anyNull ▸ none
  calc
    i.operands = i.operands.map Operand.filled := (Operand.map_filled_of_not_anyNull none).symm
    _ = j.operands.map Operand.filled := h.map_filled
    _ = j.operands := Operand.map_filled_of_not_anyNull none'

end Invocation.EqOrNull

/-- The same operand, or NULL in two forms, or the same error. -/
abbrev Result.EqOrNull : Result Operand → Result Operand → Prop :=
  Result.Related Operand.EqOrNull

theorem Result.EqOrNull.of_eq {r t : Result Operand} (h : r = t) : Result.EqOrNull r t :=
  Result.Related.of_eq (fun _ => .inl rfl) h

/-! ## Operators that yield the same -/

section Same

variable {i j : Invocation} (h : i.EqOrNull j)
include h

theorem Logic.isNull_eq : Logic.isNull i = Logic.isNull j := by
  unfold Logic.isNull
  rw [h.operand?]

theorem Comparison.matchValues_eq : Comparison.matchValues i = Comparison.matchValues j := by
  unfold Comparison.matchValues
  simp only [h.operand?, Invocation.refuse, h.alike.tag]

theorem Area.inside_eq : Area.inside i = Area.inside j := by
  unfold Area.inside
  rw [h.expression, h.operand?]

namespace Container

theorem build_eq (c : Cardinality) (times : Nat) : build c times i = build c times j := by
  unfold build
  rw [h.alike.commonBaseType, h.allScalars]

theorem repeated_eq : repeated i = repeated j := by
  unfold repeated
  simp only [h.alike.requiredInteger, h.alike.commonBaseType, h.allScalars, h.expression,
    build_eq h]

theorem containerSize_eq : containerSize i = containerSize j := by
  unfold containerSize
  rw [h.operand?]

theorem member_eq : member i = member j := by
  unfold member
  rw [h.alike.commonBaseType, h.scalar?, h.operand?]

theorem contains_eq : contains i = contains j := by
  unfold contains
  simp only [h.alike.commonBaseType, h.operand?, Invocation.refuse, h.alike.tag]

theorem fieldValue_eq : fieldValue i = fieldValue j := by
  unfold fieldValue
  rw [h.expression, h.operand?]

end Container

end Same

/-! ## Operators that show the shape of a NULL operand -/

section Shape

variable {i j : Invocation} (h : i.EqOrNull j)
include h

/-- An operator that yields NULL for NULL, and otherwise uses what is declared of all operands. -/
theorem Invocation.EqOrNull.of_types {process : Invocation → Result Operand}
    (onNull : ∀ k : Invocation, k.anyNull = true → ∃ b, process k = .ok (.null b))
    (onTypes : Operand.allInteger i.operands = Operand.allInteger j.operands →
      process i = process j) : Result.EqOrNull (process i) (process j) := by
  cases null : i.anyNull with
  | true =>
      have null' : j.anyNull = true := h.alike.anyNull ▸ null
      obtain ⟨b, left⟩ := onNull i null
      obtain ⟨b', right⟩ := onNull j null'
      rw [left, right]
      exact .inr ⟨rfl, rfl⟩
  | false =>
      have types : Operand.allInteger i.operands = Operand.allInteger j.operands := by
        rw [h.operands_eq null]
      exact .of_eq (onTypes types)

theorem Arithmetic.combine_eqOrNull (onIntegers : Int64 → Int64 → Option Int64)
    (onFloats : Float → Float → Float) :
    Result.EqOrNull (combine onIntegers onFloats i) (combine onIntegers onFloats j) := by
  refine h.of_types (fun k null => ⟨resultType k, ?_⟩) fun types => ?_
  · rw [combine, numbers?_of_anyNull null]
  · exact combine_alike types h.alike onIntegers onFloats

theorem Arithmetic.subtract_eqOrNull : Result.EqOrNull (subtract i) (subtract j) := by
  refine h.of_types (fun k null => ⟨resultType k, ?_⟩) fun types => ?_
  · rw [subtract, numbers?_of_anyNull null]
  · exact subtract_alike types h.alike

theorem Arithmetic.extreme_eqOrNull (better : Int64 → Int64 → Bool) (pick : Float → Float → Float)
    (bound : Float) :
    Result.EqOrNull (extreme better pick bound i) (extreme better pick bound j) := by
  refine h.of_types (fun k null => ⟨resultType k, ?_⟩) fun types => ?_
  · rw [extreme, numbers?_of_anyNull null]
  · exact extreme_alike types h.alike better pick bound

/-- What is left of NULL is NULL in the cardinality of what it is deleted from. -/
theorem Container.delete_eqOrNull : Result.EqOrNull (delete i) (delete j) := by
  unfold delete
  refine Result.Related.bind_eq h.alike.commonBaseType fun b _ => ?_
  rw [h.scalar?, h.operand?]
  cases j.scalar? 0 with
  | none => exact .inr ⟨rfl, rfl⟩
  | some item =>
      cases j.operand? 1 with
      | none => exact .inr ⟨rfl, rfl⟩
      | some container =>
          cases b with
          | none => exact .inr ⟨rfl, rfl⟩
          | some b => exact .inl rfl

theorem Container.index_eqOrNull : Result.EqOrNull (index i) (index j) := by
  unfold index
  refine Result.Related.bind_eq (h.alike.requiredInteger "n") fun n _ => ?_
  rw [h.operand?]
  cases seen : j.operand? 0 with
  | none => exact .inr ⟨rfl, rfl⟩
  | some v =>
      -- The declared base type is that of the operand, NULL or not, and here it is not NULL.
      have there : ∀ k : Invocation, k.operand? 0 = some v → declaredBaseType k = v.baseType := by
        intro k hk
        rw [declaredBaseType, (k.operand?_eq_some.1 hk).1]
        rfl
      have declared : declaredBaseType i = declaredBaseType j := by
        rw [there i ((h.operand? 0).trans seen), there j seen]
      rw [declared]
      exact Result.EqOrNull.of_eq rfl

end Shape

end ItemScoring
