import ItemScoring.Proofs.Invocation
import ItemScoring.Proofs.Registry
import ItemScoring.Proofs.Session
import ItemScoring.Proofs.Typing.Value

/-!
# What operators yield

Most operators make the scalar of their result themselves, in the base type that they declare, so
the result is well-formed whatever the operands are. The operators on collections take scalars over
from their operands, which have to be typed. One of them does not keep to its shapes: `delete`
accepts a single value as the one that is deleted from, and what is left of it is a collection that
is declared single.
-/

set_option autoImplicit false

namespace ItemScoring

/-- Work that yields nothing or a well-formed value, unless it reports an error. -/
def Result.WellFormed (r : Result Operand) : Prop := r.Ensures Operand.WellFormed

namespace Operand

@[simp] theorem wellFormed_boolean (b : Bool) : (boolean b).WellFormed := by simp [boolean]

@[simp] theorem wellFormed_null (b : BaseType) : (null b).WellFormed := by simp [null]

@[simp] theorem wellFormed_finite (x : Float) : (finite x).WellFormed := by
  unfold finite
  split <;> simp

end Operand

/-! ## Operators that make their scalar -/

section Made

variable (i : Invocation)

theorem Logic.and_wellFormed : (Logic.and i).WellFormed := by
  unfold Logic.and Result.WellFormed
  dsimp only
  split
  · simp
  split <;> simp

theorem Logic.or_wellFormed : (Logic.or i).WellFormed := by
  unfold Logic.or Result.WellFormed
  dsimp only
  split
  · simp
  split <;> simp

theorem Logic.not_wellFormed : (Logic.not i).WellFormed := by
  unfold Logic.not Result.WellFormed
  split <;> simp

theorem Logic.isNull_wellFormed : (Logic.isNull i).WellFormed := by
  unfold Logic.isNull Result.WellFormed
  split
  · simp
  split <;> simp

theorem Logic.anyN_wellFormed : (Logic.anyN i).WellFormed := by
  refine Result.Ensures.bind fun least _ => Result.Ensures.bind fun most _ => ?_
  dsimp only
  split
  · simp
  split <;> simp

theorem Comparison.compareNumbers_wellFormed (test : Float → Float → Bool) :
    (Comparison.compareNumbers test i).WellFormed := by
  unfold Comparison.compareNumbers Result.WellFormed
  split <;> simp

theorem Comparison.compareDurations_wellFormed (test : Duration → Duration → Bool) :
    (Comparison.compareDurations test i).WellFormed := by
  unfold Comparison.compareDurations Result.WellFormed
  split <;> simp

theorem Comparison.equal_wellFormed : (Comparison.equal i).WellFormed := by
  refine Result.Ensures.bind fun mode _ => ?_
  split
  · split
    · simp
    · refine Result.Ensures.bind fun _ _ => Result.Ensures.bind fun _ _ =>
        Result.Ensures.bind fun _ _ => ?_
      simp
  · simp

theorem Comparison.equalRounded_wellFormed (decimals : DecimalArithmetic) :
    (Comparison.equalRounded decimals i).WellFormed :=
  Result.Ensures.bind fun _ _ => Comparison.compareNumbers_wellFormed i _

theorem Comparison.matchValues_wellFormed : (Comparison.matchValues i).WellFormed := by
  unfold Comparison.matchValues Result.WellFormed
  split
  · split
    · simp
    · exact Result.ensures_error
  · simp

theorem Arithmetic.combine_wellFormed (onIntegers : Int64 → Int64 → Option Int64)
    (onFloats : Float → Float → Float) : (Arithmetic.combine onIntegers onFloats i).WellFormed := by
  unfold Arithmetic.combine Result.WellFormed
  split
  · simp
  split
  · split
    · simp
    · exact Result.ensures_error
  · split <;> simp

theorem Arithmetic.subtract_wellFormed : (Arithmetic.subtract i).WellFormed := by
  unfold Arithmetic.subtract Result.WellFormed
  split
  · split
    · split
      · simp
      · exact Result.ensures_error
    · simp
  · simp

theorem Arithmetic.divide_wellFormed : (Arithmetic.divide i).WellFormed := by
  unfold Arithmetic.divide Arithmetic.onPair Result.WellFormed
  split
  · simp only [Result.ensures_ok]
    split <;> simp
  · simp

theorem Arithmetic.power_wellFormed : (Arithmetic.power i).WellFormed := by
  unfold Arithmetic.power Arithmetic.onPair Result.WellFormed
  split <;> simp

theorem Arithmetic.onIntegerPair_wellFormed (result : Int64 → Int64 → Option Int64) :
    (Arithmetic.onIntegerPair result i).WellFormed := by
  unfold Arithmetic.onIntegerPair Result.WellFormed
  split
  · split
    · simp
    split
    · simp
    · exact Result.ensures_error
  · simp

theorem Arithmetic.integerToFloat_wellFormed : (Arithmetic.integerToFloat i).WellFormed := by
  unfold Arithmetic.integerToFloat Result.WellFormed
  split <;> simp

theorem Arithmetic.onMagnitudes_wellFormed (result : List Nat → Option Nat) :
    (Arithmetic.onMagnitudes result i).WellFormed := by
  unfold Arithmetic.onMagnitudes Result.WellFormed
  split
  · simp
  split
  · simp
  · exact Result.ensures_error

theorem Arithmetic.extreme_wellFormed (better : Int64 → Int64 → Bool) (pick : Float → Float → Float)
    (bound : Float) : (Arithmetic.extreme better pick bound i).WellFormed := by
  unfold Arithmetic.extreme Result.WellFormed
  split
  · simp
  split <;> simp

theorem Rounding.toIntegral_wellFormed (direction : Binary64.Direction) :
    (Rounding.toIntegral direction i).WellFormed := by
  unfold Rounding.toIntegral Rounding.integral Result.WellFormed
  split
  · simp
  · split
    · split <;> simp
    split
    · simp
    · exact Result.ensures_error
  · simp

theorem Rounding.roundTo_wellFormed (decimals : DecimalArithmetic) :
    (Rounding.roundTo decimals i).WellFormed := by
  refine Result.Ensures.bind fun precision _ => ?_
  split <;> simp

theorem Function.integerResult_wellFormed (n : Option Int) :
    (Function.integerResult n).WellFormed := by
  unfold Function.integerResult
  split <;> simp

theorem Function.absolute_wellFormed : (Function.absolute i).WellFormed := by
  unfold Function.absolute
  split
  · exact Function.integerResult_wellFormed _
  split <;> simp

theorem Function.atan2_wellFormed : (Function.atan2 i).WellFormed := by
  unfold Function.atan2
  split <;> simp

theorem Function.mathOperator_wellFormed : (Function.mathOperator i).WellFormed := by
  refine Result.Ensures.bind fun name _ => ?_
  split
  · exact Result.ensures_pure.2 (Function.atan2_wellFormed i)
  split
  · exact Result.ensures_pure.2 (Function.absolute_wellFormed i)
  split
  · split <;> simp
  split
  · split
    · exact Result.ensures_pure.2 (Function.integerResult_wellFormed _)
    · simp
  · exact Result.ensures_error

theorem Statistics.statsOperator_wellFormed : (Statistics.statsOperator i).WellFormed := by
  refine Result.Ensures.bind fun name _ => ?_
  split
  · exact Result.ensures_error
  split
  · simp
  dsimp only
  split <;> simp

theorem Container.containerSize_wellFormed : (Container.containerSize i).WellFormed := by
  simp [Container.containerSize, Result.WellFormed]

theorem Container.member_wellFormed : (Container.member i).WellFormed := by
  refine Result.Ensures.bind fun b _ => ?_
  split <;> simp

theorem Container.contains_wellFormed : (Container.contains i).WellFormed := by
  refine Result.Ensures.bind fun b _ => ?_
  split
  · split
    · exact Result.ensures_error
    split <;> simp
  · simp

theorem TextTest.testTexts_wellFormed (caseSensitive : Bool)
    (test : List Char → List Char → Bool) :
    (TextTest.testTexts caseSensitive test i).WellFormed := by
  unfold TextTest.testTexts
  split <;> simp

theorem TextTest.stringMatch_wellFormed : (TextTest.stringMatch i).WellFormed :=
  Result.Ensures.bind fun _ _ => Result.Ensures.bind fun _ _ => Result.Ensures.bind fun _ _ =>
    Result.ensures_pure.2 (TextTest.testTexts_wellFormed i _ _)

theorem TextTest.substring_wellFormed : (TextTest.substring i).WellFormed :=
  Result.Ensures.bind fun _ _ => Result.ensures_pure.2 (TextTest.testTexts_wellFormed i _ _)

theorem TextTest.patternMatch_wellFormed (language : PatternLanguage) :
    (TextTest.patternMatch language i).WellFormed := by
  refine Result.Ensures.bind fun read _ => Result.Ensures.bind fun pattern _ => ?_
  split
  · exact Result.ensures_error
  split <;> simp

theorem Area.inside_wellFormed : (Area.inside i).WellFormed := by
  refine Result.Ensures.bind fun shape _ => ?_
  split <;> simp

end Made

/-! ## Operators that take scalars over -/

/-- A list that is repeated has no other members. -/
theorem Container.mem_of_mem_repeatList {α : Type} {times : Nat} {xs : List α} {x : α}
    (h : x ∈ repeatList times xs) : x ∈ xs := by
  unfold repeatList at h
  split at h
  · cases h
  · obtain ⟨ys, hys, hx⟩ := List.mem_flatten.1 h
    rw [List.eq_of_mem_replicate hys] at hx
    exact hx

section Taken

variable {i : Invocation} (typed : ∀ o ∈ i.operands, Operand.Typed o)
include typed

theorem Invocation.typed_of_operand? {index : Nat} {v : Value} (h : i.operand? index = some v) :
    v.Typed := typed _ (i.mem_of_operand? h) v rfl

/-- A scalar of an operand fits the base type that the operands share. -/
theorem Invocation.fits_of_commonBaseType {b : BaseType} (h : i.commonBaseType = .ok (some b))
    {v : Value} (hv : some v ∈ i.operands) {s : Scalar} (hs : s ∈ v.scalars) :
    s.fits b = true := by
  obtain ⟨t, ht, fits⟩ := (typed _ hv v rfl).fitsIn hs
  have same : some b = some t := i.commonBaseType_eq_ok h hv (Value.not_isNull_of_mem hs) ht
  cases same
  exact fits

/-- All scalars of the operands fit the base type that the operands share. -/
theorem Container.allScalars_fit {b : BaseType} (h : i.commonBaseType = .ok (some b)) :
    ∀ s ∈ allScalars i, s.fits b = true := by
  intro s hs
  obtain ⟨o, ho, hs⟩ := List.mem_flatMap.1 hs
  cases o with
  | none => cases hs
  | some v => exact i.fits_of_commonBaseType typed h ho hs

theorem Container.build_wellFormed {c : Cardinality} (isContainer : c.isContainer = true)
    (times : Nat) : (Container.build c times i).WellFormed := by
  refine Result.Ensures.bind fun shared h => ?_
  cases shared with
  | none => simp
  | some b =>
      have fits : ∀ s ∈ repeatList times (allScalars i), s.fits b = true := fun s hs =>
        allScalars_fit typed h s (mem_of_mem_repeatList hs)
      simp [Value.wellFormed_container fits, isContainer]

theorem Container.repeated_wellFormed : (Container.repeated i).WellFormed := by
  refine Result.Ensures.bind fun times _ => ?_
  split
  · refine Result.Ensures.bind fun b _ => ?_
    simp
  split
  · exact Result.ensures_error
  · exact Container.build_wellFormed typed rfl _

theorem Container.index_wellFormed : (Container.index i).WellFormed := by
  refine Result.Ensures.bind fun n _ => ?_
  dsimp only
  split
  · next whole b hwhole hb =>
      split
      · simp
      split
      · next s hs =>
          -- The operand that is seen is the first one, so its base type is the declared one.
          have declared : declaredBaseType i = whole.baseType := by
            simp [declaredBaseType, (i.operand?_eq_some.1 hwhole).1]
          have fits := (i.typed_of_operand? typed hwhole).fitsIn (List.mem_of_getElem? hs)
          rw [← declared, hb, Scalar.fitsIn_some] at fits
          simpa using fits
      · simp
  · simp

theorem Container.fieldValue_wellFormed : (Container.fieldValue i).WellFormed := by
  refine Result.Ensures.bind fun name _ => ?_
  split
  · next field h =>
      obtain ⟨fields, hfields, hfield⟩ := Option.bind_eq_some_iff.1 h
      obtain ⟨v, hv, hfields⟩ := Option.bind_eq_some_iff.1 hfields
      obtain ⟨before, after, eq, -⟩ := List.lookup_eq_some_iff.1 hfield
      have formed := (i.typed_of_operand? typed hv).field hfields (name, field) (by simp [eq])
      simpa using formed
  · simp

theorem Container.random_wellFormed (chance : Chance) : (Container.random chance i).WellFormed := by
  unfold Container.random Result.WellFormed
  split
  · simp
  · next whole hwhole =>
      dsimp only
      split
      · next s b hs hb =>
          have fits := (i.typed_of_operand? typed hwhole).fitsIn (List.mem_of_getElem? hs)
          rw [hb, Scalar.fitsIn_some] at fits
          simpa using fits
      · simp

end Taken

/-! ## Deletion -/

namespace Container

/-- A scalar is deleted from a single value that has others: the value is declared single, and some
scalar of it does not agree with the one that is deleted. -/
def DeletesFromSingle (i : Invocation) : Prop :=
  ∃ item whole, i.scalar? 0 = some item ∧ i.operand? 1 = some whole ∧
    whole.cardinality = .single ∧ ∃ s ∈ whole.scalars, s.agrees item = false

variable {i : Invocation} (typed : ∀ o ∈ i.operands, Operand.Typed o)
include typed

/-- Deletion keeps the scalars typed. -/
theorem delete_typed : (delete i).Ensures Operand.Typed := by
  refine Result.Ensures.bind fun shared h => ?_
  dsimp only
  split
  · next item whole b hitem hwhole =>
      have mem := i.mem_of_operand? hwhole
      refine Result.ensures_pure.2 (Operand.typed_some.2 (Value.typed_container ?_ ?_))
      · exact fun s hs =>
          i.fits_of_commonBaseType typed h mem (List.mem_filter.1 hs).1
      · by_cases record : whole.cardinality = .record
        · have none : whole.scalars = [] :=
            (i.typed_of_operand? typed hwhole).scalars_of_record record
          simp [none]
        · exact .inr record
  · exact Result.ensures_pure.2 (Operand.typed_some.2 (.inl (Value.wellFormed_null _ _)))

/-- Deletion yields a well-formed value exactly when it leaves nothing of a single value. -/
theorem delete_wellFormed_iff {o : Operand} (h : delete i = .ok o) :
    o.WellFormed ↔ ¬ DeletesFromSingle i := by
  obtain ⟨shared, hshared, h⟩ := Result.bind_eq_ok.1 h
  dsimp only at h
  split at h
  · next item whole b hitem hwhole =>
      cases h
      have mem := i.mem_of_operand? hwhole
      have typedWhole := i.typed_of_operand? typed hwhole
      have fits : ∀ s ∈ whole.scalars.filter fun s => !s.agrees item, s.fits b = true :=
        fun s hs => i.fits_of_commonBaseType typed hshared mem (List.mem_filter.1 hs).1
      rw [Operand.wellFormed_some, Value.wellFormed_container fits]
      constructor
      · rintro formed ⟨item', whole', hitem', hwhole', single, s, hs, kept⟩
        obtain rfl : item = item' := Option.some.inj (hitem.symm.trans hitem')
        obtain rfl : whole = whole' := Option.some.inj (hwhole.symm.trans hwhole')
        rcases formed with empty | isContainer
        · have : s ∈ whole.scalars.filter fun s => !s.agrees item :=
            List.mem_filter.2 ⟨hs, by simp [kept]⟩
          rw [empty] at this
          cases this
        · rw [single] at isContainer
          cases isContainer
      · intro notFromSingle
        cases hc : whole.cardinality with
        | multiple | ordered => exact .inr rfl
        | record => simp [typedWhole.scalars_of_record hc]
        | single =>
            refine .inl (List.filter_eq_nil_iff.2 fun s hs => ?_)
            by_contra kept
            exact notFromSingle ⟨item, whole, hitem, hwhole, hc, s, hs, by simpa using kept⟩
  · next unseen =>
      cases h
      refine ⟨fun _ => ?_, fun _ => by simp⟩
      rintro ⟨item, whole, hitem, hwhole, -, s, hs, -⟩
      -- The deleted-from value is not NULL and has a scalar, so the operands share a base type.
      obtain ⟨t, ht, -⟩ := (i.typed_of_operand? typed hwhole).fitsIn hs
      have shares := i.commonBaseType_eq_ok hshared (i.mem_of_operand? hwhole)
        (Value.not_isNull_of_mem hs) ht
      exact unseen item whole t hitem hwhole shares

end Container

/-! ## Leaf expressions -/

/-- What a variable holds, at first, now and as the right response, is well-formed for its declared
shape. -/
structure Variable.HoldsWellFormed (v : Variable) : Prop where
  value : v.value.WellFormed v.cardinality v.baseType
  defaultValue : v.defaultValue.WellFormed v.cardinality v.baseType
  correctResponse : v.correctResponse.WellFormed v.cardinality v.baseType

def Session.HoldsWellFormed (s : Session) : Prop := ∀ v ∈ s.declared, v.HoldsWellFormed

namespace Leaf

variable (e : Expression) (s : Session)

theorem baseValue_wellFormed : (baseValue e s).WellFormed := by
  refine Result.Ensures.bind fun name _ => Result.Ensures.bind fun b _ =>
    Result.Ensures.bind fun t ht => ?_
  have fits : t.fits b = true := by
    unfold Result.ofLoad at ht
    split at ht
    · next read =>
        cases ht
        exact Scalar.read_fits read
    · cases ht
  simpa using fits

theorem mathConstant_wellFormed : (mathConstant e s).WellFormed := by
  refine Result.Ensures.bind fun name _ => ?_
  split
  · simp
  split
  · simp
  · exact Result.ensures_error

theorem mapResponse_wellFormed : (mapResponse e s).WellFormed := by
  refine Result.Ensures.bind fun v _ => ?_
  split
  · exact Result.ensures_error
  · simp

theorem mapResponsePoint_wellFormed : (mapResponsePoint e s).WellFormed := by
  refine Result.Ensures.bind fun v _ => ?_
  split
  · exact Result.ensures_error
  split
  · exact Result.ensures_error
  · simp

theorem randomInteger_wellFormed (chance : Chance) : (randomInteger chance e s).WellFormed := by
  refine Result.Ensures.bind fun min _ => Result.Ensures.bind fun max _ =>
    Result.Ensures.bind fun most _ => Result.Ensures.bind fun step _ =>
    Result.Ensures.bind fun last _ => ?_
  simp

theorem randomFloat_wellFormed (chance : Chance) : (randomFloat chance e s).WellFormed := by
  refine Result.Ensures.bind fun min _ => Result.Ensures.bind fun max _ =>
    Result.Ensures.bind fun most _ => ?_
  split
  · exact Result.ensures_error
  split
  · exact Result.ensures_error
  split <;> simp

variable {s}

/-- A part of a variable is well-formed when that part of every declared variable is. -/
theorem readVariable_wellFormed {part : Variable → Payload}
    (formed : ∀ v ∈ s.declared, (part v).WellFormed v.cardinality v.baseType) :
    (readVariable part e s).WellFormed := by
  refine Result.Ensures.bind fun id _ => Result.ensures_pure.2 fun w hw => ?_
  obtain ⟨v, found, rfl⟩ := Option.map_eq_some_iff.1 hw
  exact Value.wellFormed_mk.2 (formed v (Session.find?_eq_some.1 found).1)

end Leaf

/-! ## The processors of the standard registry -/

/-- A processor yields well-formed values: a leaf from variables that hold such values, and an
operator from typed operands. -/
def Processor.WellTyped : Processor → Prop
  | .leaf evaluate => ∀ host chance e s, Session.HoldsWellFormed s →
      (evaluate host chance e s).WellFormed
  | .operator _ process => ∀ host chance i, (∀ o ∈ i.operands, Operand.Typed o) →
      (process host chance i).WellFormed

namespace Registry

/-- Deletion and the operators of the host are the only processors that may yield something that is
not well-formed. -/
theorem standard_wellTyped {tag : String} {p : Processor} (found : standard.find? tag = some p)
    (other : tag ∉ ["delete", "customOperator"]) : p.WellTyped := by
  revert other
  refine find?_standard_induction
    (P := fun tag p => tag ∉ ["delete", "customOperator"] → p.WellTyped)
    ?leaf ?logic ?comparison ?arithmetic ?function ?container ?test found
  case leaf =>
    simp only [leaves, List.forall_mem_cons]
    exact ⟨fun _ _ _ e s _ => Leaf.baseValue_wellFormed e s,
      fun _ _ _ e _ h => Leaf.readVariable_wellFormed e fun v hv => (h v hv).value,
      fun _ _ _ e _ h => Leaf.readVariable_wellFormed e fun v hv => (h v hv).correctResponse,
      fun _ _ _ e _ h => Leaf.readVariable_wellFormed e fun v hv => (h v hv).defaultValue,
      fun _ _ _ _ _ _ => Result.ensures_ok.2 Operand.wellFormed_none,
      fun _ _ _ e s _ => Leaf.mathConstant_wellFormed e s,
      fun _ _ _ e s _ => Leaf.mapResponse_wellFormed e s,
      fun _ _ _ e s _ => Leaf.mapResponsePoint_wellFormed e s,
      fun _ _ chance e s _ => Leaf.randomInteger_wellFormed e s chance,
      fun _ _ chance e s _ => Leaf.randomFloat_wellFormed e s chance, List.forall_mem_nil _⟩
  case logic =>
    simp only [logic, List.forall_mem_cons]
    exact ⟨fun _ _ _ i _ => Logic.and_wellFormed i, fun _ _ _ i _ => Logic.or_wellFormed i,
      fun _ _ _ i _ => Logic.not_wellFormed i, fun _ _ _ i _ => Logic.anyN_wellFormed i,
      fun _ _ _ i _ => Logic.isNull_wellFormed i, List.forall_mem_nil _⟩
  case comparison =>
    simp only [comparisons, List.forall_mem_cons]
    exact ⟨fun _ _ _ i _ => Comparison.equal_wellFormed i,
      fun _ host _ i _ => Comparison.equalRounded_wellFormed i host.decimals,
      fun _ _ _ i _ => Comparison.compareNumbers_wellFormed i _,
      fun _ _ _ i _ => Comparison.compareNumbers_wellFormed i _,
      fun _ _ _ i _ => Comparison.compareNumbers_wellFormed i _,
      fun _ _ _ i _ => Comparison.compareNumbers_wellFormed i _,
      fun _ _ _ i _ => Comparison.compareDurations_wellFormed i _,
      fun _ _ _ i _ => Comparison.compareDurations_wellFormed i _,
      fun _ _ _ i _ => Comparison.matchValues_wellFormed i, List.forall_mem_nil _⟩
  case arithmetic =>
    simp only [arithmetic, List.forall_mem_cons]
    exact ⟨fun _ _ _ i _ => Arithmetic.combine_wellFormed i _ _,
      fun _ _ _ i _ => Arithmetic.combine_wellFormed i _ _,
      fun _ _ _ i _ => Arithmetic.subtract_wellFormed i,
      fun _ _ _ i _ => Arithmetic.divide_wellFormed i,
      fun _ _ _ i _ => Arithmetic.power_wellFormed i,
      fun _ _ _ i _ => Arithmetic.onIntegerPair_wellFormed i _,
      fun _ _ _ i _ => Arithmetic.onIntegerPair_wellFormed i _,
      fun _ _ _ i _ => Arithmetic.integerToFloat_wellFormed i,
      fun _ _ _ i _ => Arithmetic.onMagnitudes_wellFormed i _,
      fun _ _ _ i _ => Arithmetic.onMagnitudes_wellFormed i _,
      fun _ _ _ i _ => Arithmetic.extreme_wellFormed i _ _ _,
      fun _ _ _ i _ => Arithmetic.extreme_wellFormed i _ _ _, List.forall_mem_nil _⟩
  case function =>
    simp only [functions, List.forall_mem_cons]
    exact ⟨fun _ _ _ i _ => Rounding.toIntegral_wellFormed i _,
      fun _ _ _ i _ => Rounding.toIntegral_wellFormed i _,
      fun _ host _ i _ => Rounding.roundTo_wellFormed i host.decimals,
      fun _ _ _ i _ => Function.mathOperator_wellFormed i,
      fun _ _ _ i _ => Statistics.statsOperator_wellFormed i, List.forall_mem_nil _⟩
  case container =>
    simp only [containers, List.forall_mem_cons]
    exact ⟨fun _ _ _ _ typed => Container.build_wellFormed typed rfl _,
      fun _ _ _ _ typed => Container.build_wellFormed typed rfl _,
      fun _ _ _ _ typed => Container.repeated_wellFormed typed,
      fun _ _ _ i _ => Container.containerSize_wellFormed i,
      fun _ _ _ i _ => Container.member_wellFormed i,
      fun _ _ _ i _ => Container.contains_wellFormed i, fun other => absurd (by decide) other,
      fun _ _ _ _ typed => Container.index_wellFormed typed,
      fun _ _ _ _ typed => Container.fieldValue_wellFormed typed,
      fun _ _ chance _ typed => Container.random_wellFormed typed chance, List.forall_mem_nil _⟩
  case test =>
    simp only [tests, List.forall_mem_cons]
    exact ⟨fun _ _ _ i _ => TextTest.stringMatch_wellFormed i,
      fun _ host _ i _ => TextTest.patternMatch_wellFormed i host.patterns,
      fun _ _ _ i _ => TextTest.substring_wellFormed i,
      fun _ _ _ i _ => Area.inside_wellFormed i, fun other => absurd (by decide) other,
      List.forall_mem_nil _⟩

/-- What the standard registry holds for deletion. -/
theorem find?_delete : standard.find? "delete" =
    some (operatorOf 2 (some 2) singleOrContainer BaseType.all Container.delete) := by
  rw [find?_standard]
  rfl

theorem find?_customOperator :
    standard.find? "customOperator" =
      some (.operator .any fun host _ => customOperator host) := by
  rw [find?_standard]
  rfl

/-- Deletion and the operators of the host are no leaf expressions. -/
theorem standard_leaf {tag : String}
    {evaluate : Host → Chance → Expression → Session → Result Operand}
    (found : standard.find? tag = some (.leaf evaluate)) : tag ∉ ["delete", "customOperator"] := by
  simp only [List.mem_cons, List.not_mem_nil, or_false]
  rintro (rfl | rfl)
  · rw [find?_delete] at found
    cases found
  · rw [find?_customOperator] at found
    cases found

end Registry

end ItemScoring
