import Mathlib.Data.List.Forall2
import ItemScoring.Operator.Logic
import ItemScoring.Proofs.Invocation

/-!
# Truth that does not hang on NULL

The operators on truth values are asked before it is known what stands for NULL. A resolution says
so: it names a truth value for every operand, any one for NULL, and leaves the others as they are.
An operator answers true when every resolution satisfies what it asks for, and false when none does.
It answers NULL exactly when the resolutions disagree.

Conjunction and disjunction look for an operand that decides. The third operator counts: over all
resolutions the number of true operands runs from that of the true ones to that of the true ones and
the NULL ones together, and it takes every value in between.
-/

set_option autoImplicit false

namespace ItemScoring

/-! ## Resolutions -/

namespace Operand

/-- An operand that logic works on: NULL or a truth value. -/
def IsTruth (o : Operand) : Prop := o.isNull = true ∨ ∃ b, o = .boolean b

/-- A truth value that may stand for an operand: any one for NULL, and a truth value for itself. -/
def MayBe (o : Operand) (b : Bool) : Prop := o.isNull = true ∨ o = .boolean b

/-- A truth value for each operand that may stand for it. -/
def Resolves (os : List Operand) (bs : List Bool) : Prop := List.Forall₂ MayBe os bs

/-- The answer that a verdict is: a truth value, or NULL when there is none. -/
def ofVerdict : Option Bool → Operand
  | some b => .boolean b
  | none => .null .boolean

/-- The truth value of an operand that is one. -/
def truth? (o : Operand) : Option Bool := (o.bind Value.single?).bind Scalar.bool?

end Operand

namespace Logic

open Operand

/-- A verdict that no resolution contradicts: it is true only when all of them satisfy what is asked
for, and false only when none does. -/
structure Sound (resolves satisfied : List Bool → Prop) (verdict : Option Bool) : Prop where
  all_of_true : verdict = some true → ∀ bs, resolves bs → satisfied bs
  none_of_false : verdict = some false → ∀ bs, resolves bs → ¬ satisfied bs

/-- A verdict that is given whenever the resolutions agree, and only then. -/
structure Exact (resolves satisfied : List Bool → Prop) (verdict : Option Bool) : Prop
    extends Sound resolves satisfied verdict where
  none_iff : verdict = none ↔
    (∃ bs, resolves bs ∧ satisfied bs) ∧ ∃ bs, resolves bs ∧ ¬ satisfied bs

theorem Exact.of_all {resolves satisfied : List Bool → Prop}
    (all : ∀ bs, resolves bs → satisfied bs) : Exact resolves satisfied (some true) where
  all_of_true _ := all
  none_of_false := nofun
  none_iff := by
    constructor
    · intro null
      cases null
    · rintro ⟨-, bs, resolution, fails⟩
      exact absurd (all bs resolution) fails

theorem Exact.of_none {resolves satisfied : List Bool → Prop}
    (none : ∀ bs, resolves bs → ¬ satisfied bs) : Exact resolves satisfied (some false) where
  all_of_true := nofun
  none_of_false _ := none
  none_iff := by
    constructor
    · intro null
      cases null
    · rintro ⟨⟨bs, resolution, satisfies⟩, -⟩
      exact absurd satisfies (none bs resolution)

theorem Exact.of_both {resolves satisfied : List Bool → Prop}
    (one : ∃ bs, resolves bs ∧ satisfied bs) (other : ∃ bs, resolves bs ∧ ¬ satisfied bs) :
    Exact resolves satisfied none where
  all_of_true := nofun
  none_of_false := nofun
  none_iff := ⟨fun _ => ⟨one, other⟩, fun _ => rfl⟩

/-- The number of true ones lies between two bounds. -/
def Between (least most : Int64) (bs : List Bool) : Prop :=
  least.toInt ≤ bs.count true ∧ bs.count true ≤ most.toInt

/-! ## What the operators see -/

variable {o : Operand} {os : List Operand} {i : Invocation}

theorem truth?_of_isNull (null : o.isNull = true) : o.truth? = none := by
  cases o with
  | none => rfl
  | some v =>
      obtain ⟨c, b, rfl⟩ := Value.eq_null_of_isNull null
      rfl

/-- An operand that logic works on leaves one mark in the stream: its truth value. -/
theorem map_stream_of_isTruth (h : o.IsTruth) :
    (Option.elim o [none] Value.stream).map (fun s => s.bind Scalar.bool?) = [o.truth?] := by
  rcases h with null | ⟨b, rfl⟩
  · rw [stream_of_isNull null, truth?_of_isNull null]
    rfl
  · rfl

theorem truthValues_eq (h : ∀ o ∈ i.operands, o.IsTruth) :
    truthValues i = i.operands.map truth? := by
  unfold truthValues Operand.stream
  generalize i.operands = os at h
  induction os with
  | nil => rfl
  | cons o rest ih =>
      obtain ⟨first, others⟩ := List.forall_mem_cons.1 h
      rw [List.flatMap_cons, List.map_append, map_stream_of_isTruth first, ih others]
      rfl

/-- What the operators see of an operand tells which truth values may stand for it. -/
theorem mayBe_iff (h : o.IsTruth) (b : Bool) :
    o.MayBe b ↔ o.truth? = none ∨ o.truth? = some b := by
  rcases h with null | ⟨c, rfl⟩
  · simp [MayBe, null, truth?_of_isNull null]
  · have filled : Operand.isNull (.boolean c) = false := rfl
    have truth : truth? (.boolean c) = some c := rfl
    have same : (Operand.boolean c) = .boolean b ↔ c = b := by
      constructor
      · intro equal
        cases equal
        rfl
      · intro equal
        rw [equal]
    simp [MayBe, filled, truth, same]

/-- A truth value that may stand for what the operators see. -/
def Stands (v : Option Bool) (b : Bool) : Prop := v = none ∨ v = some b

theorem resolves_eq (h : ∀ o ∈ os, o.IsTruth) :
    Resolves os = List.Forall₂ Stands (os.map truth?) := by
  funext bs
  rw [eq_iff_iff]
  induction os generalizing bs with
  | nil => simp [Resolves]
  | cons o rest ih =>
      obtain ⟨first, others⟩ := List.forall_mem_cons.1 h
      cases bs with
      | nil => simp [Resolves]
      | cons b bs =>
          have head := mayBe_iff first b
          have tail := ih others bs
          unfold Resolves at tail ⊢
          rw [List.map_cons, List.forall₂_cons, List.forall₂_cons, tail, head]
          rfl

/-! ## Resolutions of what is seen -/

section Seen

variable {vs : List (Option Bool)} {bs : List Bool}

/-- A truth value that is seen is in every resolution. -/
theorem mem_of_resolves (h : List.Forall₂ Stands vs bs) {b : Bool} (seen : some b ∈ vs) :
    b ∈ bs := by
  induction h with
  | nil => cases seen
  | cons head _ ih =>
      rcases List.mem_cons.1 seen with rfl | seen
      · rcases head with null | same
        · cases null
        · cases same
          exact List.mem_cons_self
      · exact List.mem_cons_of_mem _ (ih seen)

/-- Without NULL, a resolution has no other truth values than those that are seen. -/
theorem seen_of_mem (h : List.Forall₂ Stands vs bs) (known : none ∉ vs) {b : Bool} (mem : b ∈ bs) :
    some b ∈ vs := by
  induction h with
  | nil => cases mem
  | cons head _ ih =>
      rw [List.mem_cons, not_or] at known
      rcases List.mem_cons.1 mem with rfl | mem
      · rcases head with null | same
        · exact absurd null.symm known.1
        · exact same ▸ List.mem_cons_self
      · exact List.mem_cons_of_mem _ (ih known.2 mem)

/-- One truth value may stand for every NULL. -/
theorem resolves_getD (b : Bool) : List.Forall₂ Stands vs (vs.map fun v => v.getD b) := by
  induction vs with
  | nil => exact .nil
  | cons v rest ih =>
      refine .cons ?_ ih
      cases v with
      | none => exact .inl rfl
      | some c => exact .inr rfl

/-- A truth value that is not seen may be there, when there is a NULL. -/
theorem exists_resolves_mem (unknown : none ∈ vs) (b : Bool) :
    ∃ bs, List.Forall₂ Stands vs bs ∧ b ∈ bs :=
  ⟨_, resolves_getD b, List.mem_map.2 ⟨none, unknown, rfl⟩⟩

/-- A truth value that is not seen may be missing. -/
theorem exists_resolves_not_mem {b : Bool} (unseen : some b ∉ vs) :
    ∃ bs, List.Forall₂ Stands vs bs ∧ b ∉ bs := by
  refine ⟨_, resolves_getD !b, ?_⟩
  intro mem
  obtain ⟨v, seen, value⟩ := List.mem_map.1 mem
  cases v with
  | none => cases b <;> cases value
  | some c =>
      obtain rfl : c = b := value
      exact unseen seen

/-- The true ones of a resolution are those that are seen to be true, and some that were NULL. -/
theorem count_of_resolves (h : List.Forall₂ Stands vs bs) :
    vs.count (some true) ≤ bs.count true ∧
      bs.count true ≤ vs.count (some true) + vs.count none := by
  induction h with
  | nil => simp
  | @cons v b _ _ head _ ih =>
      simp only [List.count_cons]
      rcases head with rfl | rfl
      · cases b <;> simp <;> omega
      · cases b <;> simp <;> omega

/-- As many of the NULL ones as one likes may be true. -/
theorem exists_resolves_count (vs : List (Option Bool)) (n : Nat)
    (low : vs.count (some true) ≤ n) (high : n ≤ vs.count (some true) + vs.count none) :
    ∃ bs, List.Forall₂ Stands vs bs ∧ bs.count true = n := by
  induction vs generalizing n with
  | nil =>
      have zero : n = 0 := by simpa using high
      exact ⟨[], .nil, zero.symm⟩
  | cons v rest ih =>
      rcases v with _ | _ | _
      · -- A NULL is made true as long as more true ones are wanted.
        have low' : rest.count (some true) ≤ n := by simpa using low
        have high' : n ≤ rest.count (some true) + (rest.count none + 1) := by simpa using high
        by_cases more : rest.count (some true) < n
        · obtain ⟨bs, resolves, count⟩ := ih (n - 1) (by omega) (by omega)
          refine ⟨true :: bs, .cons (.inl rfl) resolves, ?_⟩
          rw [List.count_cons_self, count]
          omega
        · obtain ⟨bs, resolves, count⟩ := ih n low' (by omega)
          exact ⟨false :: bs, .cons (.inl rfl) resolves, by simpa using count⟩
      · obtain ⟨bs, resolves, count⟩ := ih n (by simpa using low) (by simpa using high)
        exact ⟨false :: bs, .cons (.inr rfl) resolves, by simpa using count⟩
      · have low' : rest.count (some true) + 1 ≤ n := by simpa using low
        have high' : n ≤ rest.count (some true) + 1 + rest.count none := by simpa using high
        obtain ⟨bs, resolves, count⟩ := ih (n - 1) (by omega) (by omega)
        refine ⟨true :: bs, .cons (.inr rfl) resolves, ?_⟩
        rw [List.count_cons_self, count]
        omega

end Seen

/-! ## The operators -/

section Operators

variable (h : ∀ o ∈ i.operands, o.IsTruth)
include h

/-- Conjunction finds out whether all operands are true. -/
theorem and_exact :
    ∃ verdict, and i = .ok (ofVerdict verdict) ∧
      Exact (Resolves i.operands) (fun bs => ∀ b ∈ bs, b = true) verdict := by
  have conjunction : ∀ bs : List Bool, (∀ b ∈ bs, b = true) ↔ false ∉ bs := by
    intro bs
    constructor
    · intro all mem
      cases all false mem
    · intro missing b mem
      cases b with
      | false => exact absurd mem missing
      | true => rfl
  simp only [resolves_eq h, conjunction]
  unfold and
  rw [truthValues_eq h]
  generalize i.operands.map truth? = vs
  by_cases refused : some false ∈ vs
  · refine ⟨some false, by simp [refused, ofVerdict], .of_none ?_⟩
    intro bs resolves missing
    exact missing (mem_of_resolves resolves refused)
  by_cases unknown : none ∈ vs
  · obtain ⟨bs, resolves, mem⟩ := exists_resolves_mem unknown false
    exact ⟨none, by simp [refused, unknown, ofVerdict],
      .of_both (exists_resolves_not_mem refused) ⟨bs, resolves, not_not.2 mem⟩⟩
  · refine ⟨some true, by simp [refused, unknown, ofVerdict], .of_all ?_⟩
    intro bs resolves mem
    exact refused (seen_of_mem resolves unknown mem)

/-- Disjunction finds out whether some operand is true. -/
theorem or_exact :
    ∃ verdict, or i = .ok (ofVerdict verdict) ∧
      Exact (Resolves i.operands) (fun bs => true ∈ bs) verdict := by
  rw [resolves_eq h]
  unfold or
  rw [truthValues_eq h]
  generalize i.operands.map truth? = vs
  by_cases granted : some true ∈ vs
  · refine ⟨some true, by simp [granted, ofVerdict], .of_all ?_⟩
    intro bs resolves
    exact mem_of_resolves resolves granted
  by_cases unknown : none ∈ vs
  · exact ⟨none, by simp [granted, unknown, ofVerdict],
      .of_both (exists_resolves_mem unknown true) (exists_resolves_not_mem granted)⟩
  · refine ⟨some false, by simp [granted, unknown, ofVerdict], .of_none ?_⟩
    intro bs resolves mem
    exact granted (seen_of_mem resolves unknown mem)

/-- Counting finds out whether the number of true operands lies between two bounds. When the bounds
are in reverse order no number does, and NULL may be answered for false. -/
theorem anyN_exact {least most : Int64} (lower : i.requiredInteger "min" = .ok least)
    (upper : i.requiredInteger "max" = .ok most) :
    ∃ verdict, anyN i = .ok (ofVerdict verdict) ∧
      Sound (Resolves i.operands) (Between least most) verdict ∧
      (least.toInt ≤ most.toInt → Exact (Resolves i.operands) (Between least most) verdict) := by
  rw [resolves_eq h]
  unfold anyN
  rw [lower, upper, truthValues_eq h]
  generalize i.operands.map truth? = vs
  simp only [bind, Except.bind, pure, Except.pure]
  split
  · next outside =>
      have none : ∀ bs, List.Forall₂ Stands vs bs → ¬ Between least most bs := by
        intro bs resolves ⟨low, high⟩
        have count := count_of_resolves resolves
        omega
      exact ⟨some false, rfl, (Exact.of_none none).toSound, fun _ => .of_none none⟩
  next notOutside =>
  split
  · next inside =>
      have all : ∀ bs, List.Forall₂ Stands vs bs → Between least most bs := by
        intro bs resolves
        have count := count_of_resolves resolves
        constructor <;> omega
      exact ⟨some true, rfl, (Exact.of_all all).toSound, fun _ => .of_all all⟩
  · next notInside =>
      refine ⟨none, rfl, ⟨nofun, nofun⟩, fun ordered => .of_both ?_ ?_⟩
      · -- The least number that is within both ranges.
        obtain ⟨bs, resolves, count⟩ := exists_resolves_count vs
          (max (vs.count (some true)) least.toInt.toNat) (by omega) (by omega)
        refine ⟨bs, resolves, ?_, ?_⟩ <;> omega
      · by_cases few : (vs.count (some true) : Int) < least.toInt
        · obtain ⟨bs, resolves, count⟩ := exists_resolves_count vs
            (vs.count (some true)) (by omega) (by omega)
          refine ⟨bs, resolves, fun between => ?_⟩
          have low := between.1
          omega
        · obtain ⟨bs, resolves, count⟩ := exists_resolves_count vs
            (vs.count (some true) + vs.count none) (by omega) (by omega)
          refine ⟨bs, resolves, fun between => ?_⟩
          have high := between.2
          omega

/-- The operators on truth values and NULL always answer. None of them contradicts a resolution, and
none answers NULL when all resolutions agree; for the one that counts this takes bounds in order. -/
theorem exact_verdicts :
    (∃ verdict, and i = .ok (ofVerdict verdict) ∧
      Exact (Resolves i.operands) (fun bs => ∀ b ∈ bs, b = true) verdict) ∧
    (∃ verdict, or i = .ok (ofVerdict verdict) ∧
      Exact (Resolves i.operands) (fun bs => true ∈ bs) verdict) ∧
    ∀ least most, i.requiredInteger "min" = .ok least → i.requiredInteger "max" = .ok most →
      ∃ verdict, anyN i = .ok (ofVerdict verdict) ∧
        Sound (Resolves i.operands) (Between least most) verdict ∧
        (least ≤ most → Exact (Resolves i.operands) (Between least most) verdict) := by
  refine ⟨and_exact h, or_exact h, ?_⟩
  intro least most lower upper
  obtain ⟨verdict, answer, sound, exact⟩ := anyN_exact h lower upper
  exact ⟨verdict, answer, sound, fun ordered => exact (Int64.le_iff_toInt_le.1 ordered)⟩

end Operators

/-- Of three operands one is true and two are NULL, so exactly two may be true, or not. -/
theorem count_undecided :
    let i : Invocation := ⟨⟨"anyN", [("max", "2"), ("min", "2")], [], none⟩,
      [some (.boolean true), none, some (.null .multiple (some .integer))],
      ⟨[], List.Pairwise.nil⟩⟩
    anyN i = .ok (.null .boolean) ∧
      (∃ bs, Resolves i.operands bs ∧ Between 2 2 bs) ∧
      ∃ bs, Resolves i.operands bs ∧ ¬ Between 2 2 bs := by
  intro i
  have truths : ∀ o ∈ i.operands, o.IsTruth := by
    intro o mem
    simp only [i, List.mem_cons, List.not_mem_nil, or_false] at mem
    rcases mem with rfl | rfl | rfl
    · exact .inr ⟨true, rfl⟩
    · exact .inl rfl
    · exact .inl rfl
  have lower : i.requiredInteger "min" = .ok 2 := rfl
  have upper : i.requiredInteger "max" = .ok 2 := rfl
  have undecided : anyN i = .ok (.null .boolean) := rfl
  obtain ⟨verdict, answer, -, exact⟩ := (exact_verdicts truths).2.2 2 2 lower upper
  cases verdict with
  | none => exact ⟨undecided, (exact (by decide)).none_iff.1 rfl⟩
  | some b => cases undecided.symm.trans answer

end Logic

end ItemScoring
