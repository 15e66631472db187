import Mathlib.Data.List.Basic
import ItemScoring.Operator.Basic
import ItemScoring.Proofs.Results

/-!
# What an operator is given

An operator looks at its operands through a few views: the operand, the scalar or the number at an
index, and the base type that all operands share. NULL is invisible to the first three, and it does
not take part in the last. A contract bounds the number of operands and admits shapes, so it says
which indices an operator with a fixed number of operands has to look at.
-/

set_option autoImplicit false

namespace ItemScoring

/-! ## NULL -/

theorem Value.payload_of_isNull {v : Value} (null : v.isNull = true) : v.payload = .null := by
  obtain ⟨c, b, p⟩ := v
  cases p with
  | null => rfl
  | _ => cases null

/-- NULL has no scalars. -/
theorem Value.scalars_of_isNull {v : Value} (null : v.isNull = true) : v.scalars = [] := by
  rw [scalars, payload_of_isNull null]
  rfl

/-- A value that has a scalar is not NULL. -/
theorem Value.not_isNull_of_mem {v : Value} {s : Scalar} (h : s ∈ v.scalars) :
    v.isNull = false := by
  by_contra null
  rw [Value.scalars_of_isNull (by simpa using null)] at h
  cases h

/-- A value that is NULL is the NULL of some shape. -/
theorem Value.eq_null_of_isNull {v : Value} (null : v.isNull = true) : ∃ c b, v = .null c b := by
  obtain ⟨c, b, p⟩ := v
  obtain rfl : p = .null := payload_of_isNull null
  exact ⟨c, b, rfl⟩

/-- NULL leaves a mark in the stream, in whichever form it is given. -/
theorem Operand.stream_of_isNull {o : Operand} (null : o.isNull = true) :
    Option.elim o [none] Value.stream = [none] := by
  cases o with
  | none => rfl
  | some v =>
      obtain ⟨c, b, rfl⟩ := Value.eq_null_of_isNull null
      rfl

/-! ## Contracts -/

namespace Contract

variable {contract : Contract}

/-- A contract admits NULL, and other values of an accepted cardinality and base type. -/
def Admits (contract : Contract) (o : Operand) : Prop :=
  ∀ v, o = some v → v.isNull = false →
    v.cardinality ∈ contract.cardinalities ∧ ∀ b, v.baseType = some b → b ∈ contract.baseTypes

/-- The check of one operand decides whether the contract admits it. -/
theorem checkOperand_eq_ok (position : Nat) {o : Operand} :
    contract.checkOperand position o = .ok () ↔ contract.Admits o := by
  cases o with
  | none => simp [checkOperand, Admits]
  | some v =>
      simp only [checkOperand, Admits, Option.some.injEq, forall_eq']
      cases hn : v.isNull with
      | true => simp
      | false =>
          by_cases hc : v.cardinality ∈ contract.cardinalities
          · cases hb : v.baseType with
            | none => simp [hc]
            | some b => by_cases hm : b ∈ contract.baseTypes <;> simp [hc, hm]
          · simp [hc]

theorem checkOperands_eq_ok (position : Nat) {os : List Operand} :
    contract.checkOperands position os = .ok () ↔ ∀ o ∈ os, contract.Admits o := by
  induction os generalizing position with
  | nil => simp [checkOperands]
  | cons o rest ih =>
      rw [checkOperands, List.forall_mem_cons, ← checkOperand_eq_ok position, ← ih (position + 1)]
      split
      · next fault h => simp [h]
      · next h => simp [h]

theorem checkCount_eq_ok {count : Nat} :
    contract.checkCount count = .ok () ↔
      contract.least ≤ count ∧ ∀ most, contract.most = some most → count ≤ most := by
  unfold checkCount
  split
  · next few => simp [Nat.not_le.2 few]
  · next enough =>
      cases hm : contract.most with
      | none => simpa using enough
      | some most =>
          by_cases h : most < count
          · simp [h]
          · simp [h]
            omega

/-- Operands keep a contract when their number is within the bounds and each is admitted. -/
theorem validate_eq_ok {operator : String} {os : List Operand} :
    contract.validate operator os = .ok () ↔
      contract.least ≤ os.length ∧ (∀ most, contract.most = some most → os.length ≤ most) ∧
        ∀ o ∈ os, contract.Admits o := by
  rw [← and_assoc, ← checkCount_eq_ok, ← checkOperands_eq_ok 1]
  unfold validate
  split
  · next fault h => simp [h]
  · next h =>
      split
      · next fault h' => simp [h, h']
      · next h' => simp [h, h']

end Contract

/-! ## Views of the operands -/

namespace Invocation

variable {i : Invocation}

/-- The operand that is seen at an index is there and is not NULL. -/
theorem operand?_eq_some {index : Nat} {v : Value} :
    i.operand? index = some v ↔ i.operands[index]? = some (some v) ∧ v.isNull = false := by
  unfold operand?
  cases h : i.operands[index]? with
  | none => simp
  | some o => cases o <;> simp

theorem mem_of_operand? {index : Nat} {v : Value} (h : i.operand? index = some v) :
    some v ∈ i.operands :=
  List.mem_of_getElem? (operand?_eq_some.1 h).1

/-- No scalar is seen where no operand is. -/
theorem scalar?_of_operand? {index : Nat} (h : i.operand? index = none) :
    i.scalar? index = none := by
  simp [scalar?, h]

theorem number?_of_operand? {index : Nat} (h : i.operand? index = none) :
    i.number? index = none := by
  simp [number?, scalar?_of_operand? h]

/-- Of a NULL operand nothing is seen. -/
theorem operand?_of_isNull {index : Nat} {o : Operand} (there : i.operands[index]? = some o)
    (null : o.isNull = true) : i.operand? index = none := by
  cases o with
  | none => simp [operand?, there]
  | some v => simp_all [operand?, Operand.isNull]

/-- When one operand is given and some operand is NULL, nothing is seen at the first index. -/
theorem operand?_zero_of_anyNull (one : i.operands.length = 1) (null : i.anyNull = true) :
    i.operand? 0 = none := by
  obtain ⟨o, ho⟩ := List.length_eq_one_iff.1 one
  refine operand?_of_isNull (o := o) (by simp [ho]) ?_
  simpa [anyNull, Operand.anyNull, ho] using null

/-- When two operands are given and some operand is NULL, nothing is seen at one of the first two
indices. -/
theorem operand?_zero_or_one_of_anyNull (two : i.operands.length = 2) (null : i.anyNull = true) :
    i.operand? 0 = none ∨ i.operand? 1 = none := by
  obtain ⟨o, p, hop⟩ := List.length_eq_two.1 two
  have : o.isNull = true ∨ p.isNull = true := by
    simpa [anyNull, Operand.anyNull, hop] using null
  exact this.imp (operand?_of_isNull (by simp [hop])) (operand?_of_isNull (by simp [hop]))

/-! ## The base type that operands share -/

/-- The shared base type is that found before, and that of every operand that has one and is not
NULL. -/
theorem sharedBaseType_eq_ok {found shared : Option BaseType} {os : List Operand}
    (h : i.sharedBaseType found os = .ok shared) :
    (∀ b, found = some b → shared = some b) ∧
      ∀ v, some v ∈ os → v.isNull = false → ∀ b, v.baseType = some b → shared = some b := by
  induction os generalizing found with
  | nil =>
      cases h
      exact ⟨fun _ => id, fun v hv => nomatch hv⟩
  | cons o rest ih =>
      cases o with
      | none =>
          obtain ⟨before, others⟩ := ih h
          refine ⟨before, fun v hv => others v ?_⟩
          simpa using hv
      | some w =>
          unfold sharedBaseType at h
          split at h
          · next null =>
              obtain ⟨before, others⟩ := ih h
              refine ⟨before, fun v hv filled => ?_⟩
              rcases List.mem_cons.1 hv with hv | hv
              · cases hv
                rw [null] at filled
                cases filled
              · exact others v hv filled
          · -- What counts from here on is the base type found before, or else that of this operand.
            suffices ∀ next, i.sharedBaseType next rest = .ok shared →
                (∀ b, found = some b → next = some b) → (∀ b, w.baseType = some b → next = some b) →
                (∀ b, found = some b → shared = some b) ∧
                  ∀ v, some v ∈ some w :: rest → v.isNull = false →
                    ∀ b, v.baseType = some b → shared = some b by
              cases hf : found with
              | none =>
                  simp only [hf] at h
                  exact hf ▸ this w.baseType h (by simp [hf]) fun _ => id
              | some a =>
                  cases hw : w.baseType with
                  | none =>
                      simp only [hf, hw] at h
                      exact hf ▸ this (some a) h (by simp [hf]) (by simp [hw])
                  | some b =>
                      simp only [hf, hw] at h
                      split at h
                      · next same => exact hf ▸ this (some a) h (by simp [hf]) (by simp [hw, same])
                      · cases h
            intro next h before here
            obtain ⟨kept, others⟩ := ih h
            refine ⟨fun b hb => kept b (before b hb), fun v hv filled b hb => ?_⟩
            rcases List.mem_cons.1 hv with hv | hv
            · cases hv
              exact kept b (here b hb)
            · exact others v hv filled b hb

/-- The common base type is that of every operand that has one and is not NULL. -/
theorem commonBaseType_eq_ok {shared : Option BaseType} (h : i.commonBaseType = .ok shared)
    {v : Value} (hv : some v ∈ i.operands) (filled : v.isNull = false) {b : BaseType}
    (hb : v.baseType = some b) : shared = some b :=
  (sharedBaseType_eq_ok h).2 v hv filled b hb

end Invocation

end ItemScoring
