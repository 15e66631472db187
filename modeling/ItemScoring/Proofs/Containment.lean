import ItemScoring.Proofs.Order.Containers
import ItemScoring.Proofs.Pairing

/-!
# What a collection or a sequence contains

A sequence contains another one when a run of it agrees with the other place by place. A collection
contains another one when every scalar of the other agrees with one of its own. The search takes out
the first scalar that agrees, and it cannot take the wrong one: scalars that agree with a wanted one
agree with the same scalars. What is no number agrees with nothing and is never found.
-/

set_option autoImplicit false

namespace ItemScoring.Container

variable {wanted part whole : List Scalar}

/-- Every scalar of a list has one of its own in another list, at another position for each, that
agrees with it. -/
def IsPart (part whole : List Scalar) : Prop :=
  ∃ f : Fin part.length → Fin whole.length, Function.Injective f ∧
    ∀ k, (whole.get (f k)).agrees (part.get k) = true

/-- Scalars that stand one after the other in a list agree with those of another one, place by
place. -/
def IsRun (part whole : List Scalar) : Prop :=
  ∃ run, run <:+: whole ∧ List.Forall₂ (fun s wanted => s.agrees wanted = true) run part

/-! ## Runs -/

theorem beginsWith_iff :
    beginsWith part whole = true ↔
      ∃ run, run <+: whole ∧ List.Forall₂ (fun s wanted => s.agrees wanted = true) run part := by
  induction part generalizing whole with
  | nil => simp [beginsWith]
  | cons wanted rest ih =>
      cases whole with
      | nil => simp [beginsWith]
      | cons s ss =>
          rw [beginsWith, Bool.and_eq_true, ih]
          constructor
          · rintro ⟨agree, run, begins, places⟩
            exact ⟨s :: run, List.cons_prefix_cons.2 ⟨rfl, begins⟩, .cons agree places⟩
          · rintro ⟨run, begins, places⟩
            cases places with
            | cons agree places =>
                obtain ⟨rfl, others⟩ := List.cons_prefix_cons.1 begins
                exact ⟨agree, _, others, places⟩

theorem holdsRun_iff : holdsRun part whole = true ↔ IsRun part whole := by
  induction whole with
  | nil =>
      cases part with
      | nil => simp [holdsRun, IsRun]
      | cons wanted rest => simp [holdsRun, IsRun]
  | cons s ss ih =>
      rw [holdsRun, Bool.or_eq_true, beginsWith_iff, ih]
      unfold IsRun
      simp only [List.infix_cons_iff, or_and_right, exists_or]

/-! ## Parts -/

/-- A search that succeeds takes out, for every wanted scalar in turn, one that agrees with it. -/
theorem exists_taken_of_holdsEach (h : holdsEach wanted whole = true) :
    ∃ taken, taken.Subperm whole ∧
      List.Forall₂ (fun w s => s.agrees w = true) wanted taken := by
  induction wanted generalizing whole with
  | nil => exact ⟨[], List.nil_subperm, .nil⟩
  | cons w rest ih =>
      obtain ⟨others, out, left⟩ := holdsEach_cons_iff.1 h
      obtain ⟨s, agree, perm⟩ := exists_of_takeOut? out
      obtain ⟨taken, part, places⟩ := ih left
      exact ⟨s :: taken, ((List.subperm_cons s).2 part).trans perm.symm.subperm,
        .cons agree places⟩

/-- Scalars that agree place by place agree with the same scalars, so equally many of both agree
with any scalar. -/
theorem countP_eq_of_forall₂ {taken : List Scalar}
    (places : List.Forall₂ (fun w s => s.agrees w = true) wanted taken) (v : Scalar) :
    wanted.countP (·.agrees v) = taken.countP (·.agrees v) := by
  induction places with
  | nil => rfl
  | cons agree _ ih => rw [List.countP_cons, List.countP_cons, ih, Scalar.agrees_congr_left agree]

/-- The search finds every scalar exactly when it can be done: what it takes out for one scalar is
never missing for another. -/
theorem holdsEach_eq_true_iff : holdsEach part whole = true ↔ IsPart part whole := by
  have pairing : IsPart part whole ↔ ∃ taken, taken.Subperm whole ∧
      List.Forall₂ (fun w s => s.agrees w = true) part taken :=
    Pairing.exists_injective_iff (R := fun w s : Scalar => s.agrees w = true)
  constructor
  · intro h
    exact pairing.2 (exists_taken_of_holdsEach h)
  · rintro ⟨f, injective, related⟩
    obtain ⟨taken, sub, places⟩ := pairing.1 ⟨f, injective, related⟩
    refine holdsEach_iff.2 fun w hw => ⟨?_, ?_⟩
    · obtain ⟨k, rfl⟩ := List.mem_iff_get.1 hw
      have agree := related k
      exact Scalar.agrees_trans (Scalar.agrees_symm agree) agree
    · rw [countP_eq_of_forall₂ places]
      exact sub.countP_le _

/-! ## The operator -/

/-- Two collections or sequences of one shape are searched, and no error is reported. -/
theorem contains_of_operands {i : Invocation} {a b : Value}
    (operands : i.operands = [some a, some b]) (filled : a.isNull = false ∧ b.isNull = false)
    (shape : a.cardinality = b.cardinality) (types : a.baseType = b.baseType) :
    contains i = .ok (.boolean (if a.cardinality = .ordered then holdsRun b.scalars a.scalars
      else holdsEach b.scalars a.scalars)) := by
  have first : i.operand? 0 = some a := by
    simp [Invocation.operand?, operands, filled.1]
  have second : i.operand? 1 = some b := by
    simp [Invocation.operand?, operands, filled.2]
  have common : i.commonBaseType = .ok b.baseType := by
    unfold Invocation.commonBaseType
    cases known : b.baseType <;>
      simp [operands, Invocation.sharedBaseType, filled.1, filled.2, types, known]
  unfold contains
  rw [common, first, second]
  simp only [bind, Except.bind, shape, ne_eq, not_true_eq_false, if_false]
  split <;> rfl

/-- Whether a collection or a sequence contains another one of its shape is always decided: for a
sequence by a run, and for a collection by a part, however both are arranged. -/
theorem contains_eq_true_iff {i : Invocation} {a b : Value}
    (operands : i.operands = [some a, some b]) (filled : a.isNull = false ∧ b.isNull = false)
    (shape : a.cardinality = b.cardinality) (types : a.baseType = b.baseType) :
    ∃ answer, contains i = .ok (.boolean answer) ∧
      (a.cardinality = .ordered → (answer = true ↔ IsRun b.scalars a.scalars)) ∧
      (a.cardinality = .multiple →
        (answer = true ↔ IsPart b.scalars a.scalars) ∧
          ∀ ss ts, ss.Perm a.scalars → ts.Perm b.scalars →
            contains { i with operands := [
              some (.mk .multiple a.baseType (.list ss)),
              some (.mk .multiple b.baseType (.list ts))] } = .ok (.boolean answer)) := by
  refine ⟨_, contains_of_operands operands filled shape types, fun sequence => ?_,
    fun collection => ⟨?_, fun ss ts first second => ?_⟩⟩
  · rw [if_pos sequence]
    exact holdsRun_iff
  · rw [if_neg (by simp [collection])]
    exact holdsEach_eq_true_iff
  · have same : holdsEach ts ss = holdsEach b.scalars a.scalars := holdsEach_perm second first
    have notOrdered : ¬ a.cardinality = .ordered := by simp [collection]
    rw [if_neg notOrdered, ← same]
    exact contains_of_operands
      (i := { i with operands := [some (.mk .multiple a.baseType (.list ss)),
        some (.mk .multiple b.baseType (.list ts))] }) rfl ⟨rfl, rfl⟩ rfl types

/-- The search for the two pairs takes out a pair with its names in other places first, and finds
another one for the second. -/
theorem pairs_contained :
    let links : Value := .container .multiple .pair [.pair "B" "A", .pair "C" "D", .pair "A" "B"]
    let wanted : Value := .container .multiple .pair [.pair "A" "B", .pair "A" "B"]
    let i : Invocation :=
      ⟨⟨"contains", [], [], none⟩, [some links, some wanted], ⟨[], List.Pairwise.nil⟩⟩
    contains i = .ok (.boolean true) ∧ IsPart wanted.scalars links.scalars := by
  intro links wanted i
  have found : contains i = .ok (.boolean true) := rfl
  obtain ⟨answer, decided, -, collection⟩ :=
    contains_eq_true_iff (i := i) (a := links) (b := wanted) rfl ⟨rfl, rfl⟩ rfl rfl
  cases decided.symm.trans found
  exact ⟨found, (collection rfl).1.1 rfl⟩

end ItemScoring.Container
