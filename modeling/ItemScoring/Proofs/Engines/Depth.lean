import Mathlib.Order.Bounds.Basic
import ItemScoring.Proofs.Engines.Evaluation

/-!
# The limit of the depth

A limit of the depth only stops evaluations. Where it does not, the value or the error is the one
without a limit. An expression that has a value without a limit is stopped exactly when one of the
nodes that are evaluated lies deeper than the limit. These are the expression itself, at depth one,
and the children of operators; the children of leaf expressions are never evaluated.
-/

set_option autoImplicit false

namespace ItemScoring

/-! ## How deep an evaluation reaches -/

namespace Registry

variable (r : Registry)

/-- The children of an expression that are evaluated: those of an operator. -/
def evaluatedChildren (e : Expression) : List Expression :=
  match r.find? e.tag with
  | some (.operator _ _) => e.children
  | _ => []

/-- The evaluation of an expression that stands at one depth evaluates a node at another depth. -/
inductive Reaches : Nat → Expression → Nat → Prop where
  /-- The expression itself is evaluated. -/
  | here {depth : Nat} {e : Expression} : Reaches depth e depth
  /-- What is evaluated for a child is evaluated. -/
  | child {depth reached : Nat} {c e : Expression} (evaluated : c ∈ r.evaluatedChildren e)
    (h : Reaches (depth + 1) c reached) : Reaches depth e reached

mutual

/-- The depth of the deepest node that is evaluated, counted from one at the expression itself. -/
def deepest : Expression → Nat
  | ⟨tag, _, children, _⟩ =>
    match r.find? tag with
    | some (.operator _ _) => deepestOfAll children + 1
    | _ => 1
termination_by structural e => e

/-- The depth of the deepest node that is evaluated for any of the expressions; zero for none. -/
def deepestOfAll : List Expression → Nat
  | [] => 0
  | e :: rest => max (deepest e) (deepestOfAll rest)
termination_by structural es => es

end

theorem evaluatedChildren_of_leaf {e : Expression}
    {evaluate : Host → Chance → Expression → Session → Result Operand}
    (found : r.find? e.tag = some (.leaf evaluate)) : r.evaluatedChildren e = [] := by
  rw [evaluatedChildren, found]

theorem evaluatedChildren_of_operator {e : Expression} {contract : Contract}
    {process : Host → Chance → Invocation → Result Operand}
    (found : r.find? e.tag = some (.operator contract process)) :
    r.evaluatedChildren e = e.children := by
  rw [evaluatedChildren, found]

theorem mem_children_of_evaluated {c e : Expression} (h : c ∈ r.evaluatedChildren e) :
    c ∈ e.children := by
  rw [evaluatedChildren] at h
  split at h
  · exact h
  · cases h

/-- All depths that are reached keep a bound when the expression and its evaluated children do. -/
theorem forall_reaches_iff {depth limit : Nat} {e : Expression} :
    (∀ reached, r.Reaches depth e reached → reached ≤ limit) ↔
      depth ≤ limit ∧ ∀ c ∈ r.evaluatedChildren e, ∀ reached,
        r.Reaches (depth + 1) c reached → reached ≤ limit := by
  constructor
  · exact fun h => ⟨h depth .here, fun c hc reached deeper => h reached (.child hc deeper)⟩
  · rintro ⟨own, children⟩ reached h
    cases h with
    | here => exact own
    | child hc deeper => exact children _ hc reached deeper

theorem deepest_eq (e : Expression) :
    r.deepest e = r.deepestOfAll (r.evaluatedChildren e) + 1 := by
  obtain ⟨tag, attributes, children, literal⟩ := e
  rw [deepest, evaluatedChildren]
  dsimp only
  split <;> rfl

theorem deepest_le_deepestOfAll {c : Expression} {es : List Expression} (h : c ∈ es) :
    r.deepest c ≤ r.deepestOfAll es := by
  induction es with
  | nil => cases h
  | cons e rest ih =>
      rw [deepestOfAll]
      rcases List.mem_cons.1 h with rfl | h
      · exact le_max_left _ _
      · exact (ih h).trans (le_max_right _ _)

/-- The deepest node of several expressions is that of one of them. -/
theorem exists_deepest_eq {es : List Expression} (h : es ≠ []) :
    ∃ c ∈ es, r.deepest c = r.deepestOfAll es := by
  induction es with
  | nil => exact absurd rfl h
  | cons e rest ih =>
      rw [deepestOfAll]
      by_cases last : rest = []
      · subst last
        exact ⟨e, List.mem_cons_self, (Nat.max_zero _).symm⟩
      · obtain ⟨c, hc, same⟩ := ih last
        rcases le_total (r.deepest e) (r.deepestOfAll rest) with le | le
        · exact ⟨c, List.mem_cons_of_mem _ hc, same.trans (max_eq_right le).symm⟩
        · exact ⟨e, List.mem_cons_self, (max_eq_left le).symm⟩

/-- No node lies below the deepest one. -/
theorem Reaches.lt_add_deepest {depth reached : Nat} {e : Expression}
    (h : r.Reaches depth e reached) : reached < depth + r.deepest e := by
  induction h with
  | here =>
      rw [deepest_eq]
      omega
  | child hc _ ih =>
      have below := r.deepest_le_deepestOfAll hc
      rw [deepest_eq]
      omega

/-- The deepest node is evaluated. -/
theorem reaches_deepest (depth : Nat) (e : Expression) :
    r.Reaches (depth + 1) e (depth + r.deepest e) := by
  induction e using Expression.induction generalizing depth with
  | node e ih =>
      rw [deepest_eq]
      by_cases none : r.evaluatedChildren e = []
      · rw [none]
        exact .here
      · obtain ⟨c, hc, same⟩ := r.exists_deepest_eq none
        have inside : r.Reaches (depth + 2) c (depth + 1 + r.deepest c) :=
          ih c (r.mem_children_of_evaluated hc) (depth + 1)
        rw [same, Nat.add_right_comm] at inside
        exact .child hc inside

/-- The deepest node is evaluated, and all nodes that are evaluated lie at its depth or above. -/
theorem isGreatest_deepest (e : Expression) :
    IsGreatest {reached | r.Reaches 1 e reached} (r.deepest e) := by
  constructor
  · have reached := r.reaches_deepest 0 e
    rw [Nat.zero_add, Nat.zero_add] at reached
    exact reached
  · intro reached h
    have below := Reaches.lt_add_deepest r h
    omega

end Registry

/-! ## Evaluation under a limit -/

namespace Engine

/-- The engine with another limit of the depth, or with none. -/
def withLimit (g : Engine) (limit : Option Nat) : Engine :=
  { g with config := { g.config with maxDepth := limit } }

variable {g : Engine} {s : Session} {limit : Nat}

theorem checkDepth_withLimit_eq_ok {depth : Nat} :
    (g.withLimit (some limit)).config.checkDepth depth = .ok () ↔ depth ≤ limit := by
  simp [withLimit, Config.checkDepth]

theorem checkDepth_withLimit_eqUnless (depth : Nat) :
    Result.EqUnless (· = .depthExceeded limit) ((g.withLimit (some limit)).config.checkDepth depth)
      ((g.withLimit none).config.checkDepth depth) := by
  by_cases allowed : depth ≤ limit
  · exact .inl (checkDepth_withLimit_eq_ok.2 allowed)
  · refine .inr ⟨_, rfl, ?_⟩
    simp [withLimit, Config.checkDepth, Nat.lt_of_not_le allowed]

theorem evaluateAll_withLimit_eq_ok_of_forall {depth : Nat} {es : List Expression}
    {Within : Expression → Prop}
    (each : ∀ e ∈ es, ∀ place o,
      (g.withLimit (some limit)).evaluateAt s depth place e = .ok o ↔
        Within e ∧ (g.withLimit none).evaluateAt s depth place e = .ok o)
    {place : Nat} {os : List Operand} :
    (g.withLimit (some limit)).evaluateAll s depth place es = .ok os ↔
      (∀ e ∈ es, Within e) ∧ (g.withLimit none).evaluateAll s depth place es = .ok os := by
  induction es generalizing place os with
  | nil => exact ⟨fun h => ⟨List.forall_mem_nil _, h⟩, fun h => h.2⟩
  | cons e rest ih =>
      obtain ⟨first, others⟩ := List.forall_mem_cons.1 each
      rw [evaluateAll, evaluateAll, Result.bind_eq_ok, Result.bind_eq_ok, List.forall_mem_cons]
      constructor
      · rintro ⟨o, ho, h⟩
        obtain ⟨os', hos, h⟩ := Result.bind_eq_ok.1 h
        obtain ⟨own, ho⟩ := (first place o).1 ho
        obtain ⟨rest, hos⟩ := (ih others).1 hos
        exact ⟨⟨own, rest⟩, o, ho, Result.bind_eq_ok.2 ⟨os', hos, h⟩⟩
      · rintro ⟨⟨own, rest⟩, o, ho, h⟩
        obtain ⟨os', hos, h⟩ := Result.bind_eq_ok.1 h
        exact ⟨o, (first place o).2 ⟨own, ho⟩,
          Result.bind_eq_ok.2 ⟨os', (ih others).2 ⟨rest, hos⟩, h⟩⟩

/-- Under a limit an expression has the value that it has without, when no node that is evaluated
lies deeper than the limit, and no value otherwise. -/
theorem evaluateAt_withLimit_eq_ok {depth place : Nat} {e : Expression} {o : Operand} :
    (g.withLimit (some limit)).evaluateAt s depth place e = .ok o ↔
      (∀ reached, g.registry.Reaches depth e reached → reached ≤ limit) ∧
        (g.withLimit none).evaluateAt s depth place e = .ok o := by
  induction e using Expression.induction generalizing depth place o with
  | node e ih =>
      have children {operands : List Operand} :
          (g.withLimit (some limit)).evaluateAll s (depth + 1) (place + 1) e.children =
              .ok operands ↔
            (∀ c ∈ e.children, ∀ reached, g.registry.Reaches (depth + 1) c reached →
              reached ≤ limit) ∧
            (g.withLimit none).evaluateAll s (depth + 1) (place + 1) e.children = .ok operands :=
        evaluateAll_withLimit_eq_ok_of_forall fun c hc place o => ih c hc
      rw [evaluateAt_eq_ok, evaluateAt_eq_ok, checkDepth_withLimit_eq_ok,
        Registry.forall_reaches_iff]
      constructor
      · rintro ⟨allowed, ⟨evaluate, found, h⟩ | ⟨contract, process, os, found, hos, valid, h⟩⟩
        · refine ⟨⟨allowed, ?_⟩, rfl, .inl ⟨evaluate, found, h⟩⟩
          rw [g.registry.evaluatedChildren_of_leaf found]
          exact List.forall_mem_nil _
        · obtain ⟨within, hos⟩ := children.1 hos
          refine ⟨⟨allowed, ?_⟩, rfl, .inr ⟨contract, process, os, found, hos, valid, h⟩⟩
          rw [g.registry.evaluatedChildren_of_operator found]
          exact within
      · rintro ⟨⟨allowed, within⟩, -, leaf | ⟨contract, process, os, found, hos, valid, h⟩⟩
        · exact ⟨allowed, .inl leaf⟩
        · rw [g.registry.evaluatedChildren_of_operator found] at within
          have hos := children.2 ⟨within, hos⟩
          exact ⟨allowed, .inr ⟨contract, process, os, found, hos, valid, h⟩⟩

/-- Under a limit of the depth an evaluation exceeds the limit or comes out as without a limit. When
there is a value without a limit, it exceeds the limit exactly when the deepest node that is
evaluated lies deeper. -/
theorem evaluate_withLimit (g : Engine) (limit place : Nat) (e : Expression) (s : Session) :
    ((g.withLimit (some limit)).evaluate place e s = .error (.depthExceeded limit) ∨
      (g.withLimit (some limit)).evaluate place e s = (g.withLimit none).evaluate place e s) ∧
    ∀ o, (g.withLimit none).evaluate place e s = .ok o →
      ((g.withLimit (some limit)).evaluate place e s = .error (.depthExceeded limit) ↔
        limit < g.registry.deepest e) := by
  have stops : Result.EqUnless (· = .depthExceeded limit)
      ((g.withLimit (some limit)).evaluate place e s) ((g.withLimit none).evaluate place e s) :=
    evaluateAt_eqUnless (g := g.withLimit (some limit)) (k := g.withLimit none) rfl
      checkDepth_withLimit_eqUnless (fun _ _ => .inl rfl) 1 place
  have either : (g.withLimit (some limit)).evaluate place e s = .error (.depthExceeded limit) ∨
      (g.withLimit (some limit)).evaluate place e s = (g.withLimit none).evaluate place e s := by
    rcases stops with same | ⟨fault, rfl, stopped⟩
    · exact .inr same
    · exact .inl stopped
  refine ⟨either, fun o value => ?_⟩
  have greatest := g.registry.isGreatest_deepest e
  have within : (g.withLimit (some limit)).evaluate place e s = .ok o ↔
      g.registry.deepest e ≤ limit := by
    refine evaluateAt_withLimit_eq_ok.trans ⟨fun h => h.1 _ greatest.1, fun le => ⟨?_, value⟩⟩
    exact fun reached h => (greatest.2 h).trans le
  rw [← not_le, ← within]
  constructor
  · intro exceeded fits
    rw [exceeded] at fits
    cases fits
  · intro notWithin
    exact either.resolve_right fun same => notWithin (same.trans value)

/-- A sum exceeds a limit of one, but not a limit of two: its operand is a leaf expression, whose
child is not evaluated. -/
theorem sum_withLimit :
    let e : Expression :=
      ⟨"sum", [], [⟨"baseValue", [("baseType", "integer")], [.leaf "null" []], some "1"⟩], none⟩
    (standard.withLimit none).evaluate 0 e .empty = .ok (some (.integer 1)) ∧
      standard.registry.deepest e = 2 ∧
      (standard.withLimit (some 1)).evaluate 0 e .empty = .error (.depthExceeded 1) ∧
      (standard.withLimit (some 2)).evaluate 0 e .empty = .ok (some (.integer 1)) := by
  intro e
  have value : (standard.withLimit none).evaluate 0 e .empty = .ok (some (.integer 1)) := rfl
  have deepest : standard.registry.deepest e = 2 := rfl
  have first := evaluate_withLimit standard 1 0 e .empty
  have second := evaluate_withLimit standard 2 0 e .empty
  rw [deepest] at first second
  refine ⟨value, deepest, (first.2 _ value).2 (by decide), ?_⟩
  exact (second.1.resolve_left fun h => absurd ((second.2 _ value).1 h) (by decide)).trans value

end Engine

end ItemScoring
