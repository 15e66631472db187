import Mathlib.Data.List.Forall2
import ItemScoring.Engine
import ItemScoring.Proofs.Expression
import ItemScoring.Proofs.Results

/-!
# The steps of an evaluation

The value of an expression comes from one processor: a leaf yields it directly, an operator yields
it from the values of the children, which have kept the contract. Either may use the choice that is
made at the place of the expression. `evaluateAt_eq_ok` states this as an equivalence, and
`evaluateAt_induction` packages it with the induction over the tree, for facts about the values of
all expressions at all places.
-/

set_option autoImplicit false

namespace ItemScoring

/-- What is related to a member of the second list is a member of the first. -/
theorem exists_mem_of_forall₂ {α β : Type} {R : α → β → Prop} {as : List α} {bs : List β}
    (h : List.Forall₂ R as bs) {b : β} (hb : b ∈ bs) : ∃ a ∈ as, R a b := by
  induction h with
  | nil => cases hb
  | cons head _ ih =>
      rcases List.mem_cons.1 hb with rfl | hb
      · exact ⟨_, List.mem_cons_self, head⟩
      · obtain ⟨a, ha, related⟩ := ih hb
        exact ⟨a, List.mem_cons_of_mem _ ha, related⟩

/-! ## One step -/

namespace Engine

variable {g : Engine} {s : Session}

/-- The values of expressions are one value for each, in order. -/
theorem evaluateAll_eq_ok {depth place : Nat} {es : List Expression} {os : List Operand} :
    g.evaluateAll s depth place es = .ok os ↔
      List.Forall₂ (fun c o => g.evaluateAt s depth c.2 c.1 = .ok o)
        (Expression.placed place es) os := by
  induction es generalizing place os with
  | nil =>
      constructor
      · intro h
        cases h
        exact .nil
      · intro h
        cases h
        rfl
  | cons e rest ih =>
      rw [evaluateAll, Result.bind_eq_ok]
      constructor
      · rintro ⟨o, ho, h⟩
        obtain ⟨os', hos, h⟩ := Result.bind_eq_ok.1 h
        cases h
        exact .cons ho (ih.1 hos)
      · intro h
        obtain ⟨o, os', ho, hos, rfl⟩ := List.forall₂_cons_left_iff.1 h
        exact ⟨o, ho, Result.bind_eq_ok.2 ⟨os', ih.2 hos, rfl⟩⟩

/-- An expression has a value when its depth is allowed and the processor of its tag yields the
value, an operator from the values of the children. -/
theorem evaluateAt_eq_ok {depth place : Nat} {e : Expression} {o : Operand} :
    g.evaluateAt s depth place e = .ok o ↔
      g.config.checkDepth depth = .ok () ∧
        ((∃ evaluate, g.registry.find? e.tag = some (.leaf evaluate) ∧
            evaluate g.host (g.host.chance place) e s = .ok o) ∨
          ∃ contract process operands, g.registry.find? e.tag = some (.operator contract process) ∧
            g.evaluateAll s (depth + 1) (place + 1) e.children = .ok operands ∧
            contract.validate e.tag operands = .ok () ∧
            process g.host (g.host.chance place) ⟨e, operands, s⟩ = .ok o) := by
  obtain ⟨tag, attributes, children, literal⟩ := e
  rw [evaluateAt, Result.bind_eq_ok]
  constructor
  · rintro ⟨⟨⟩, hdepth, h⟩
    refine ⟨hdepth, ?_⟩
    split at h
    · cases h
    · next evaluate found => exact .inl ⟨evaluate, found, h⟩
    · next contract process found =>
        obtain ⟨operands, hos, h⟩ := Result.bind_eq_ok.1 h
        obtain ⟨⟨⟩, hvalid, h⟩ := Result.bind_eq_ok.1 h
        exact .inr ⟨contract, process, operands, found, hos, hvalid, h⟩
  · rintro ⟨hdepth, ⟨evaluate, found, h⟩ | ⟨contract, process, operands, found, hos, hvalid, h⟩⟩
    · refine ⟨(), hdepth, ?_⟩
      simp only at found
      simp only [found]
      exact h
    · refine ⟨(), hdepth, ?_⟩
      simp only at found
      simp only [found]
      exact Result.bind_eq_ok.2 ⟨operands, hos, Result.bind_eq_ok.2 ⟨(), hvalid, h⟩⟩

/-- What every processor passes from the children of an expression to the expression holds of the
values of all expressions, wherever they stand. -/
theorem evaluateAt_induction {P : Nat → Expression → Operand → Prop}
    (leaf : ∀ place e evaluate o, g.registry.find? e.tag = some (.leaf evaluate) →
      evaluate g.host (g.host.chance place) e s = .ok o → P place e o)
    (operator : ∀ place e contract process depth operands o,
      g.registry.find? e.tag = some (.operator contract process) →
      g.evaluateAll s depth (place + 1) e.children = .ok operands →
      List.Forall₂ (fun c o => P c.2 c.1 o) (Expression.placed (place + 1) e.children) operands →
      contract.validate e.tag operands = .ok () →
      process g.host (g.host.chance place) ⟨e, operands, s⟩ = .ok o → P place e o)
    {e : Expression} {depth place : Nat} {o : Operand} (h : g.evaluateAt s depth place e = .ok o) :
    P place e o := by
  induction e using Expression.induction generalizing depth place o with
  | node e ih =>
      obtain ⟨-, ⟨evaluate, found, h⟩ | ⟨contract, process, operands, found, hos, valid, h⟩⟩ :=
        evaluateAt_eq_ok.1 h
      · exact leaf place e evaluate o found h
      · have each : List.Forall₂
            (fun c o => (∀ o, g.evaluateAt s (depth + 1) c.2 c.1 = .ok o → P c.2 c.1 o) ∧
              g.evaluateAt s (depth + 1) c.2 c.1 = .ok o)
            (Expression.placed (place + 1) e.children) operands :=
          (List.forall₂_and_left _ _).2
            ⟨fun c hc o => ih c.1 (Expression.mem_of_mem_placed hc), evaluateAll_eq_ok.1 hos⟩
        have children : List.Forall₂ (fun c o => P c.2 c.1 o)
            (Expression.placed (place + 1) e.children) operands :=
          each.imp fun c o both => both.1 o both.2
        exact operator place e contract process (depth + 1) operands o found hos children valid h

/-! ## Two evaluations -/

theorem evaluateAll_related {R : Operand → Operand → Prop} {t : Session} {depth : Nat}
    {es : List Expression}
    (each : ∀ e ∈ es, ∀ place place',
      Result.Related R (g.evaluateAt s depth place e) (g.evaluateAt t depth place' e))
    (place place' : Nat) :
    Result.Related (List.Forall₂ R) (g.evaluateAll s depth place es)
      (g.evaluateAll t depth place' es) := by
  induction es generalizing place place' with
  | nil => exact .nil
  | cons e rest ih =>
      obtain ⟨first, others⟩ := List.forall_mem_cons.1 each
      rw [evaluateAll, evaluateAll]
      refine Result.Related.bind (first place place') fun o o' head => ?_
      refine Result.Related.bind (ih others _ _) fun os os' tail => ?_
      exact .cons head tail

/-- The values of an expression in two sessions and at two places are related, or the errors are the
same, when that is so for its leaves, and its operators pass it on from their operands, however the
choices come out. -/
theorem evaluateAt_related {R : Operand → Operand → Prop} {t : Session} {e : Expression}
    (leaf : ∀ d ∈ e.nodes, ∀ evaluate, g.registry.find? d.tag = some (.leaf evaluate) →
      ∀ c c', Result.Related R (evaluate g.host c d s) (evaluate g.host c' d t))
    (operator : ∀ d ∈ e.nodes, ∀ contract process os os',
      g.registry.find? d.tag = some (.operator contract process) → List.Forall₂ R os os' →
      contract.validate d.tag os = contract.validate d.tag os' ∧
        (contract.validate d.tag os = .ok () →
          ∀ c c', Result.Related R (process g.host c ⟨d, os, s⟩) (process g.host c' ⟨d, os', t⟩)))
    (depth place place' : Nat) :
    Result.Related R (g.evaluateAt s depth place e) (g.evaluateAt t depth place' e) := by
  induction e using Expression.induction generalizing depth place place' with
  | node e ih =>
      have children : Result.Related (List.Forall₂ R)
          (g.evaluateAll s (depth + 1) (place + 1) e.children)
          (g.evaluateAll t (depth + 1) (place' + 1) e.children) := by
        refine evaluateAll_related (fun c hc => ih c hc ?_ ?_ (depth + 1)) _ _
        · exact fun d hd => leaf d (Expression.mem_nodes_of_child hc hd)
        · exact fun d hd => operator d (Expression.mem_nodes_of_child hc hd)
      have ownLeaf := leaf e e.self_mem_nodes
      have ownOperator := operator e e.self_mem_nodes
      obtain ⟨tag, attributes, parts, literal⟩ := e
      rw [evaluateAt, evaluateAt]
      refine Result.Related.bind_eq rfl fun _ _ => ?_
      cases found : g.registry.find? tag with
      | none => rfl
      | some p =>
          cases p with
          | leaf evaluate => exact ownLeaf evaluate found _ _
          | operator contract process =>
              refine Result.Related.bind children fun os os' operands => ?_
              obtain ⟨checks, results⟩ := ownOperator contract process os os' found operands
              exact Result.Related.bind_eq checks fun _ valid => results valid _ _

/-! ## The depth of an expression -/

/-- Expressions of which each has one value, at whatever depth it stands, have one list of
values. -/
theorem evaluateAll_unique_of_forall {es : List Expression}
    (unique : ∀ e ∈ es, ∀ {depth depth' place : Nat} {o o' : Operand},
      g.evaluateAt s depth place e = .ok o → g.evaluateAt s depth' place e = .ok o' → o = o')
    {depth depth' place : Nat} {os os' : List Operand}
    (h : g.evaluateAll s depth place es = .ok os) (h' : g.evaluateAll s depth' place es = .ok os') :
    os = os' := by
  induction es generalizing place os os' with
  | nil =>
      cases h
      cases h'
      rfl
  | cons e rest ih =>
      obtain ⟨first, others⟩ := List.forall_mem_cons.1 (fun e he => @unique e he)
      obtain ⟨o, ho, h⟩ := Result.bind_eq_ok.1 h
      obtain ⟨tail, htail, h⟩ := Result.bind_eq_ok.1 h
      obtain ⟨o', ho', h'⟩ := Result.bind_eq_ok.1 h'
      obtain ⟨tail', htail', h'⟩ := Result.bind_eq_ok.1 h'
      cases h
      cases h'
      rw [first ho ho', ih (fun e he => others e he) htail htail']

/-- The depth at which an expression stands does not count for its value, only for whether it has
one. -/
theorem evaluateAt_unique {e : Expression} {depth depth' place : Nat} {o o' : Operand}
    (h : g.evaluateAt s depth place e = .ok o) (h' : g.evaluateAt s depth' place e = .ok o') :
    o = o' := by
  induction e using Expression.induction generalizing depth depth' place o o' with
  | node e ih =>
      obtain ⟨-, ⟨evaluate, found, h⟩ | ⟨contract, process, operands, found, hos, -, h⟩⟩ :=
        evaluateAt_eq_ok.1 h
      · obtain ⟨-, ⟨evaluate', found', h'⟩ | ⟨_, _, _, found', -⟩⟩ := evaluateAt_eq_ok.1 h'
        · rw [found] at found'
          cases found'
          exact Except.ok.inj (h.symm.trans h')
        · rw [found] at found'
          cases found'
      · obtain ⟨-, ⟨_, found', -⟩ | ⟨contract', process', operands', found', hos', -, h'⟩⟩ :=
          evaluateAt_eq_ok.1 h'
        · rw [found] at found'
          cases found'
        · rw [found] at found'
          cases found'
          have same : operands = operands' :=
            evaluateAll_unique_of_forall (fun c hc _ _ _ _ _ => ih c hc) hos hos'
          subst same
          exact Except.ok.inj (h.symm.trans h')

theorem evaluateAll_unique {es : List Expression} {depth depth' place : Nat} {os os' : List Operand}
    (h : g.evaluateAll s depth place es = .ok os) (h' : g.evaluateAll s depth' place es = .ok os') :
    os = os' :=
  evaluateAll_unique_of_forall (fun _ _ _ _ _ _ _ => evaluateAt_unique) h h'

end Engine

end ItemScoring
