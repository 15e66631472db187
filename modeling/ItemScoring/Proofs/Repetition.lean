import Mathlib.Algebra.Order.Ring.Int
import Mathlib.Tactic.Zify
import ItemScoring.Proofs.Building

/-!
# Repetitions

A repetition is the sequence of its operands written as often as an attribute says. Its length is
bounded, and the bound is checked on the exact product of the number of times and the number of
scalars before anything is built. No repetition at all is NULL.
-/

set_option autoImplicit false

namespace ItemScoring.Container

/-- The operands, written several times one after the other. -/
def written (times : Nat) (os : List Operand) : List Operand := (List.replicate times os).flatten

theorem scalarsOf_written (times : Nat) (os : List Operand) :
    scalarsOf (written times os) = (List.replicate times (scalarsOf os)).flatten := by
  induction times with
  | zero => rfl
  | succ times ih =>
      rw [List.replicate_succ, List.flatten_cons, ← ih, ← scalarsOf_append]
      rfl

/-- Operands that are written again share what they shared before. -/
theorem sharedBaseType_written {i : Invocation} {shared : Option BaseType} {os : List Operand}
    (once : i.sharedBaseType none os = .ok shared) (times : Nat) :
    i.sharedBaseType shared (written times os) = .ok shared := by
  have again : i.sharedBaseType shared os = .ok shared := by
    rw [Invocation.sharedBaseType_of_ok once]
    cases shared with
    | none => rfl
    | some b => exact if_pos rfl
  induction times with
  | zero => rfl
  | succ times ih =>
      rw [written, List.replicate_succ, List.flatten_cons, Invocation.sharedBaseType_append, again]
      exact ih

/-- Writing operands several times, but at least once, changes nothing about the base type that they
share, and nothing about what is reported when they share none. -/
theorem sharedBaseType_written_succ (i : Invocation) (times : Nat) (os : List Operand) :
    i.sharedBaseType none (written (times + 1) os) = i.sharedBaseType none os := by
  rw [written, List.replicate_succ, List.flatten_cons, Invocation.sharedBaseType_append]
  cases once : i.sharedBaseType none os with
  | ok shared => exact sharedBaseType_written once times
  | error e => rfl

/-- What is built several times of operands is built at once of the operands written as often. -/
theorem build_written (c : Cardinality) {times : Nat} (once : 0 < times) (i : Invocation) :
    build c times i = build c 1 { i with operands := written times i.operands } := by
  obtain ⟨further, rfl⟩ := Nat.exists_eq_succ_of_ne_zero once.ne'
  rw [build_one, build_eq_built, scalarsOf_written, Invocation.commonBaseType,
    sharedBaseType_written_succ]

/-- What is built does not depend on the expression and the session, but for the name that a report
gives to the operator. -/
theorem build_retag (c : Cardinality) (times : Nat) {i j : Invocation}
    (operands : i.operands = j.operands) :
    (∃ o, build c times i = .ok o ∧ build c times j = .ok o) ∨
      ∃ a b, build c times i = .error (.validation i.tag (.mixedBaseTypes a b)) ∧
        build c times j = .error (.validation j.tag (.mixedBaseTypes a b)) := by
  simp only [build_eq_built, Invocation.commonBaseType, operands]
  rcases Invocation.sharedBaseType_retag (i := i) j none j.operands with
    ⟨shared, here, there⟩ | ⟨a, b, here, there⟩
  · rw [here, there]
    exact .inl ⟨_, rfl, rfl⟩
  · rw [here, there]
    exact .inr ⟨a, b, rfl, rfl⟩

/-- What is built several times has no more scalars than its operands have, as often. -/
theorem length_scalars_of_build {c : Cardinality} {times : Nat} {i : Invocation} {v : Value}
    (h : build c times i = .ok (some v)) :
    v.scalars.length ≤ times * (allScalars i).length := by
  rw [build_eq_built] at h
  obtain ⟨shared, -, h⟩ := Result.map_eq_ok.1 h
  cases shared with
  | none =>
      cases h
      exact Nat.zero_le _
  | some b =>
      cases h
      have length : (List.replicate times (scalarsOf i.operands)).flatten.length =
          times * (allScalars i).length := by
        simp [scalarsOf, allScalars]
      rw [Option.elim_some, scalars_container, length]

theorem mostRepeated_eq : mostRepeated = 2 ^ 20 := rfl

section Times

variable {i : Invocation} {k : Int64} (times : i.requiredInteger "numberRepeats" = .ok k)
include times

/-- Nothing is repeated less than once, but the operands still have to share a base type. -/
theorem repeated_of_lt_one (few : k.toInt < 1) :
    repeated i = i.commonBaseType >>= fun b => .ok (some (.null .ordered b)) := by
  unfold repeated
  rw [times]
  exact if_pos few

/-- A repetition that would be too long is refused, whatever its operands are. -/
theorem repeated_of_exceeds (once : 1 ≤ k.toInt)
    (exceeds : (2 : Int) ^ 20 < k.toInt * (allScalars i).length) :
    repeated i = .error (.invalidAttribute i.tag "numberRepeats" (.repeats k mostRepeated)) := by
  have exact : (k.toInt.toNat : Int) = k.toInt := Int.toNat_of_nonneg (by omega)
  have long : mostRepeated < k.toInt.toNat * (allScalars i).length := by
    rw [mostRepeated_eq]
    zify
    rwa [exact]
  unfold repeated
  rw [times]
  exact (if_neg (by omega)).trans (if_pos long)

/-- Any other repetition is built. -/
theorem repeated_of_within (once : 1 ≤ k.toInt)
    (within : k.toInt * (allScalars i).length ≤ 2 ^ 20) :
    repeated i = build .ordered k.toInt.toNat i := by
  have exact : (k.toInt.toNat : Int) = k.toInt := Int.toNat_of_nonneg (by omega)
  have short : ¬ mostRepeated < k.toInt.toNat * (allScalars i).length := by
    rw [mostRepeated_eq, not_lt]
    zify
    rwa [exact]
  unfold repeated
  rw [times]
  exact (if_neg (by omega)).trans (if_neg short)

end Times

/-- A repetition never has more than `2 ^ 20` scalars. -/
theorem length_scalars_of_repeated {i : Invocation} {v : Value}
    (h : repeated i = .ok (some v)) : v.scalars.length ≤ 2 ^ 20 := by
  obtain ⟨k, times, -⟩ := Result.bind_eq_ok.1 h
  rcases lt_or_ge k.toInt 1 with few | once
  · rw [repeated_of_lt_one times few] at h
    obtain ⟨b, -, null⟩ := Result.bind_eq_ok.1 h
    cases null
    exact Nat.zero_le _
  · rcases lt_or_ge (2 ^ 20) (k.toInt * (allScalars i).length) with exceeds | within
    · rw [repeated_of_exceeds times once exceeds] at h
      cases h
    · rw [repeated_of_within times once within] at h
      have exact : (k.toInt.toNat : Int) = k.toInt := Int.toNat_of_nonneg (by omega)
      have length := length_scalars_of_build h
      zify at length ⊢
      rw [exact] at length
      exact length.trans within

/-- What comes of repeating operands as often as an attribute says. Repeated less than once they
come to NULL, and repetitions that would have more than `2 ^ 20` scalars are refused. All others are
the sequence of the operands written as often, whichever expression and session that is built for;
and when there is no such sequence, the operands are refused for the same base types. -/
theorem repeated_bounded {i : Invocation} {k : Int64}
    (times : i.requiredInteger "numberRepeats" = .ok k) :
    (k.toInt < 1 → (∃ b, repeated i = .ok (some (.null .ordered b))) ∨
      ∃ a b, repeated i = .error (.validation i.tag (.mixedBaseTypes a b))) ∧
    (1 ≤ k.toInt → 2 ^ 20 < k.toInt * (allScalars i).length →
      repeated i = .error (.invalidAttribute i.tag "numberRepeats" (.repeats k mostRepeated))) ∧
    (1 ≤ k.toInt → k.toInt * (allScalars i).length ≤ 2 ^ 20 →
      ∀ j : Invocation, j.operands = written k.toInt.toNat i.operands →
        (∃ o, repeated i = .ok o ∧ ordered j = .ok o) ∨
        ∃ a b, repeated i = .error (.validation i.tag (.mixedBaseTypes a b)) ∧
          ordered j = .error (.validation j.tag (.mixedBaseTypes a b))) ∧
    ∀ v, repeated i = .ok (some v) → v.scalars.length ≤ 2 ^ 20 := by
  refine ⟨fun few => ?_, repeated_of_exceeds times, fun once within j operands => ?_,
    fun v h => length_scalars_of_repeated h⟩
  · rw [repeated_of_lt_one times few]
    rcases Invocation.sharedBaseType_retag (i := i) i none i.operands with
      ⟨shared, works, -⟩ | ⟨a, b, refused, -⟩
    · have works : i.commonBaseType = .ok shared := works
      rw [works]
      exact .inl ⟨shared, rfl⟩
    · have refused : i.commonBaseType = i.refuse (.mixedBaseTypes a b) := refused
      rw [refused]
      exact .inr ⟨a, b, rfl⟩
  · rw [repeated_of_within times once within, build_written .ordered (by omega) i]
    exact build_retag .ordered 1 operands.symm

/-- The number of times is read from a variable; NULL is left out each time. -/
theorem repeated_as_variable_says :
    let times : Variable := ⟨"N", .single, some .integer, .single (.integer 2), .null, .null,
      none, none, none⟩
    let os : List Operand :=
      [some (.integer 3), none, some (.container .ordered .integer [.integer 1, .integer 2])]
    let i : Invocation :=
      ⟨⟨"repeat", [("numberRepeats", "\x7bN\x7d")], [], none⟩, os, Session.empty.declare times⟩
    let all : List Scalar :=
      [.integer 3, .integer 1, .integer 2, .integer 3, .integer 1, .integer 2]
    i.requiredInteger "numberRepeats" = .ok 2 ∧
      repeated i = .ok (some (.container .ordered .integer all)) ∧ all.length ≤ 2 ^ 20 := by
  intro times os i all
  have read : i.requiredInteger "numberRepeats" = .ok 2 := by rfl
  obtain ⟨-, -, within, bounded⟩ := repeated_bounded read
  let j : Invocation := ⟨⟨"ordered", [], [], none⟩, os ++ os, .empty⟩
  have sequence : ordered j = .ok (some (.container .ordered .integer all)) := rfl
  rcases within (by decide) (by decide) j rfl with ⟨o, repetition, same⟩ | ⟨a, b, -, refused⟩
  · rw [sequence] at same
    cases same
    exact ⟨read, repetition, bounded _ repetition⟩
  · rw [sequence] at refused
    cases refused

end ItemScoring.Container
