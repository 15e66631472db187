import ItemScoring.Proofs.Evaluation
import ItemScoring.Proofs.Typing.Operators

/-!
# The values of expressions are well-formed

Over variables that hold well-formed values, every expression has a typed value. The invariant of
the induction over the tree is more than that: the value is well-formed exactly when the expression
is no deletion from a single value. The operators of the host promise something for well-formed
operands only, so none of their operands may be such a deletion.
-/

set_option autoImplicit false

namespace ItemScoring

/-- The expression of an integer that is written down. -/
def Expression.integerLiteral (text : String) : Expression :=
  ⟨"baseValue", [("baseType", "integer")], [], some text⟩

/-- The expression of an integer between one and six that is chosen at random. -/
def Expression.die : Expression := ⟨"randomInteger", [("max", "6"), ("min", "1")], [], none⟩

/-! ## The operators of the host -/

/-- The operators of the host yield well-formed values from well-formed operands. -/
def Host.WellTyped (host : Host) : Prop :=
  ∀ operatorClass operator, host.resolve operatorClass = some operator →
    ∀ i : Invocation, (∀ o ∈ i.operands, Operand.WellFormed o) → (operator.process i).WellFormed

/-- The host that knows no operators keeps every promise about them. -/
theorem Host.plain_wellTyped : Host.plain.WellTyped := fun _ _ h => nomatch h

/-- A host with one operator, which passes its first operand on. At every place it chooses the
possibility that has the number of the place. -/
def Host.numbering : Host where
  resolve name := if name = "first" then some ⟨.any, fun i => .ok i.operands.head?.join⟩ else none
  patterns := .builtIn
  decimals := .builtIn
  chance place := ⟨fun last => ⟨place % (last + 1), Nat.mod_lt place last.succ_pos⟩, 0⟩

/-- What holds of the operands of the operator holds of its result. -/
theorem Host.numbering_keeps {P : Value → Prop} {operatorClass : String} {operator : CustomOperator}
    (resolved : Host.numbering.resolve operatorClass = some operator) {i : Invocation}
    (operands : ∀ o ∈ i.operands, ∀ v, o = some v → P v) :
    (operator.process i).Ensures fun o => ∀ v, o = some v → P v := by
  obtain ⟨-, same⟩ := Option.ite_none_right_eq_some.1 resolved
  obtain rfl := Option.some.inj same
  refine Result.ensures_ok.2 fun v hv => ?_
  exact operands (some v) (List.mem_of_head? (Option.join_eq_some_iff.1 hv)) v rfl

theorem Host.numbering_wellTyped : Host.numbering.WellTyped :=
  fun _ _ resolved _ formed => Host.numbering_keeps resolved formed

/-- What holds of everything that the operators of the host yield holds of what is yielded by
calling one. -/
theorem customOperator_ensures {host : Host} {i : Invocation} {P : Operand → Prop}
    (promise : ∀ operatorClass operator, host.resolve operatorClass = some operator →
      (operator.process i).Ensures P) : (customOperator host i).Ensures P := by
  refine Result.Ensures.bind fun operatorClass _ => ?_
  split
  · exact Result.ensures_error
  · next operator resolved =>
      exact Result.Ensures.bind fun _ _ => promise operatorClass operator resolved

namespace Engine

variable {g : Engine} {s : Session}

/-! ## Deletions from single values -/

/-- The expression, which stands at a place, is a deletion, and its operands have values of which
the second is a single value that is not deleted completely. -/
def DeletesFromSingle (g : Engine) (s : Session) (place : Nat) (e : Expression) : Prop :=
  e.tag = "delete" ∧ ∃ depth operands,
    g.evaluateAll s depth (place + 1) e.children = .ok operands ∧
      Container.DeletesFromSingle ⟨e, operands, s⟩

/-- Whether a deletion is one from a single value is seen on the values of the operands, at any
depth. -/
theorem deletesFromSingle_iff {place : Nat} {e : Expression} {depth : Nat} {operands : List Operand}
    (tag : e.tag = "delete") (h : g.evaluateAll s depth (place + 1) e.children = .ok operands) :
    g.DeletesFromSingle s place e ↔ Container.DeletesFromSingle ⟨e, operands, s⟩ := by
  constructor
  · rintro ⟨-, depth', operands', h', deletes⟩
    rw [evaluateAll_unique h h']
    exact deletes
  · exact fun deletes => ⟨tag, depth, operands, h, deletes⟩

/-- No operator of the host, in an expression that stands at a place, has a deletion from a single
value as an operand. -/
def FeedsNoDeletion (g : Engine) (s : Session) (place : Nat) (e : Expression) : Prop :=
  ∀ d ∈ e.nodesFrom place, d.1.tag = "customOperator" →
    ∀ c ∈ Expression.placed (d.2 + 1) d.1.children, ¬ g.DeletesFromSingle s c.2 c.1

/-! ## Evaluation with the standard registry -/

/-- Every value is typed, and well-formed exactly when it does not come from a deletion from a
single value. -/
theorem evaluateAt_typed (standard : g.registry = .standard) (host : g.host.WellTyped)
    (holds : s.HoldsWellFormed) {place : Nat} {e : Expression}
    (fed : g.FeedsNoDeletion s place e) {depth : Nat} {o : Operand}
    (h : g.evaluateAt s depth place e = .ok o) :
    o.Typed ∧ (o.WellFormed ↔ ¬ g.DeletesFromSingle s place e) := by
  revert fed
  -- Away from deletions a well-formed value is all that is to show.
  have regular {place : Nat} {e : Expression} {o : Operand} (formed : o.WellFormed)
      (other : e.tag ≠ "delete") :
      o.Typed ∧ (o.WellFormed ↔ ¬ g.DeletesFromSingle s place e) :=
    ⟨formed.typed, fun _ deletes => other deletes.1, fun _ => formed⟩
  refine evaluateAt_induction
    (P := fun place e o => g.FeedsNoDeletion s place e →
      o.Typed ∧ (o.WellFormed ↔ ¬ g.DeletesFromSingle s place e)) ?leaf ?operator h
  case leaf =>
    intro place e evaluate o found h _
    rw [standard] at found
    have other := Registry.standard_leaf found
    have formed := Registry.standard_wellTyped found other g.host _ e s holds o h
    exact regular formed fun isDelete => other (by simp [isDelete])
  case operator =>
    intro place e contract process depth operands o found hos children _ h fed
    rw [standard] at found
    have child : ∀ o ∈ operands, ∃ c ∈ Expression.placed (place + 1) e.children,
        Operand.Typed o ∧ (Operand.WellFormed o ↔ ¬ g.DeletesFromSingle s c.2 c.1) := by
      intro o ho
      obtain ⟨c, hc, invariant⟩ := exists_mem_of_forall₂ children ho
      exact ⟨c, hc, invariant fun d hd => fed d (Expression.mem_nodesFrom_of_child hc hd)⟩
    have typed : ∀ o ∈ operands, Operand.Typed o := by
      intro o ho
      obtain ⟨c, -, typed, -⟩ := child o ho
      exact typed
    by_cases isDelete : e.tag = "delete"
    · rw [isDelete, Registry.find?_delete] at found
      cases found
      exact ⟨Container.delete_typed (i := ⟨e, operands, s⟩) typed o h,
        (Container.delete_wellFormed_iff (i := ⟨e, operands, s⟩) typed h).trans
          (not_congr (deletesFromSingle_iff isDelete hos).symm)⟩
    by_cases isCustom : e.tag = "customOperator"
    · rw [isCustom, Registry.find?_customOperator] at found
      cases found
      have formed : ∀ o ∈ operands, Operand.WellFormed o := by
        intro o ho
        obtain ⟨c, hc, -, formed⟩ := child o ho
        exact formed.2 (fed _ (Expression.self_mem_nodesFrom place e) isCustom c hc)
      have custom : (customOperator g.host ⟨e, operands, s⟩).WellFormed :=
        customOperator_ensures fun name operator resolved =>
          host name operator resolved _ formed
      exact regular (custom o h) isDelete
    · have processor := Registry.standard_wellTyped found (by simp [isDelete, isCustom])
      exact regular (processor g.host _ ⟨e, operands, s⟩ typed o h) isDelete

/-- However the choices at the places of its nodes come out, the value of an expression is typed,
and it is well-formed unless the expression is a deletion from a single value. -/
theorem evaluate_wellFormed_iff (standard : g.registry = .standard) (host : g.host.WellTyped)
    (holds : s.HoldsWellFormed) {place : Nat} {e : Expression}
    (fed : g.FeedsNoDeletion s place e) {v : Value}
    (h : g.evaluate place e s = .ok (some v)) :
    v.Typed ∧ (v.WellFormed ↔ ¬ g.DeletesFromSingle s place e) := by
  rw [← Operand.wellFormed_some, ← Operand.typed_some]
  exact evaluateAt_typed standard host holds fed h

/-- A session with a score of five. -/
def scored : Session where
  declared :=
    [⟨"SCORE", .single, some .integer, .single (.integer 5), .null, .null, none, none, none⟩]
  sorted := List.pairwise_singleton _ _

/-- The standard engine with a host whose choices are the places. -/
def numbered : Engine := ⟨.standard, .standard, .numbering⟩

/-- The deletion of a one from the numbers of two dice. -/
def deletionFromDice : Expression :=
  ⟨"delete", [], [.integerLiteral "1", ⟨"multiple", [], [.die, .die], none⟩], none⟩

/-- The collection of a score, of what an operator of the host makes of the deletion, and of a third
die. -/
def scoreAndDice : Expression :=
  ⟨"multiple", [],
    [⟨"variable", [("identifier", "SCORE")], [], none⟩,
      ⟨"customOperator", [("class", "first")], [deletionFromDice], none⟩, .die], none⟩

/-- The operands of the deletion are a one and the numbers of the dice, which differ. -/
theorem evaluateAll_deletionFromDice (s : Session) :
    numbered.evaluateAll s 4 4 deletionFromDice.children =
      .ok [some (.integer 1),
        some (.container .multiple .integer [.integer 1, .integer 2])] := rfl

/-- The only operator of the host in the collection is fed a deletion from two dice. -/
theorem scoreAndDice_feedsNoDeletion : numbered.FeedsNoDeletion scored 0 scoreAndDice := by
  have only : ∀ d ∈ scoreAndDice.nodesFrom 0, d.1.tag = "customOperator" →
      d = (⟨"customOperator", [("class", "first")], [deletionFromDice], none⟩, 2) := by
    simp [scoreAndDice, deletionFromDice, Expression.nodesFrom, Expression.nodes,
      Expression.nodesOfAll, Expression.integerLiteral, Expression.die]
  intro d hd custom c hc deletes
  obtain rfl := only d hd custom
  obtain rfl : c = (deletionFromDice, 3) := List.mem_singleton.1 hc
  obtain ⟨item, whole, -, found, single, -⟩ :=
    (deletesFromSingle_iff rfl (evaluateAll_deletionFromDice scored)).1 deletes
  cases found
  cases single

/-- The collection is well-formed. All three dice in it show different numbers. -/
theorem collection_wellFormed :
    scored.HoldsWellFormed ∧ numbered.host.WellTyped ∧
      numbered.FeedsNoDeletion scored 0 scoreAndDice ∧
      numbered.evaluate 0 scoreAndDice scored =
        .ok (some (.container .multiple .integer [.integer 5, .integer 2, .integer 3])) ∧
      (Value.container .multiple .integer [.integer 5, .integer 2, .integer 3]).WellFormed := by
  have holds : scored.HoldsWellFormed := by
    intro v hv
    obtain rfl := List.mem_singleton.1 hv
    exact ⟨⟨rfl, .integer, rfl, rfl⟩, trivial, trivial⟩
  have value : numbered.evaluate 0 scoreAndDice scored =
      .ok (some (.container .multiple .integer [.integer 5, .integer 2, .integer 3])) := rfl
  have notDelete : ¬ numbered.DeletesFromSingle scored 0 scoreAndDice :=
    fun deletes => absurd deletes.1 (by decide)
  have formed := evaluate_wellFormed_iff rfl Host.numbering_wellTyped holds
    scoreAndDice_feedsNoDeletion value
  exact ⟨holds, Host.numbering_wellTyped, scoreAndDice_feedsNoDeletion, value,
    formed.2.2 notDelete⟩

/-- What is left of a single integer after the deletion of another is a collection that is declared
single. -/
theorem deletion_not_wellFormed :
    let e : Expression := ⟨"delete", [], [.integerLiteral "2", .integerLiteral "1"], none⟩
    Session.empty.HoldsWellFormed ∧ Host.plain.WellTyped ∧
      ∃ v, standard.evaluate 0 e .empty = .ok (some v) ∧ ¬ v.WellFormed := by
  intro e
  refine ⟨fun _ hv => (nomatch hv), Host.plain_wellTyped,
    .container .single .integer [.integer 1], rfl, ?_⟩
  rw [Value.wellFormed_container (by simp [Scalar.fits])]
  simp [Cardinality.isContainer]

/-! ## Evaluation with any registry -/

/-- A processor of an engine yields typed values: a leaf from variables that hold well-formed
values, and an operator from such variables and typed operands. -/
def YieldsTyped (g : Engine) : Processor → Prop
  | .leaf evaluate => ∀ chance e s, s.HoldsWellFormed →
      (evaluate g.host chance e s).Ensures Operand.Typed
  | .operator _ process => ∀ chance i, i.session.HoldsWellFormed →
      (∀ o ∈ i.operands, Operand.Typed o) → (process g.host chance i).Ensures Operand.Typed

/-- The operators of the host, and all processors that are not standard ones, yield typed values
from typed operands. An operand need not be well-formed, since it may be a deletion from a single
value. -/
structure CustomTyped (g : Engine) : Prop where
  /-- The operators of the host. -/
  operator : ∀ operatorClass operator, g.host.resolve operatorClass = some operator →
    ∀ i : Invocation, (∀ o ∈ i.operands, Operand.Typed o) →
      (operator.process i).Ensures Operand.Typed
  /-- The processors of the registry. -/
  processor : ∀ tag p, g.registry.find? tag = some p →
    (∃ t, Registry.standard.find? t = some p) ∨ g.YieldsTyped p

/-- Over variables that hold well-formed values, every expression has a typed value. -/
theorem evaluateAt_typed_of_custom (custom : g.CustomTyped) (holds : s.HoldsWellFormed)
    {e : Expression} {depth place : Nat} {o : Operand} (h : g.evaluateAt s depth place e = .ok o) :
    o.Typed := by
  refine evaluateAt_induction (P := fun _ _ o => o.Typed) ?leaf ?operator h
  case leaf =>
    intro place e evaluate o found h
    rcases custom.processor _ _ found with ⟨t, found⟩ | yields
    · have other := Registry.standard_leaf found
      exact (Registry.standard_wellTyped found other g.host _ e s holds o h).typed
    · exact yields _ e s holds o h
  case operator =>
    intro place e contract process depth operands o found _ children _ h
    have typed : ∀ o ∈ operands, Operand.Typed o := by
      intro o ho
      obtain ⟨c, -, typed⟩ := exists_mem_of_forall₂ children ho
      exact typed
    rcases custom.processor _ _ found with ⟨t, found⟩ | yields
    · by_cases isDelete : t = "delete"
      · rw [isDelete, Registry.find?_delete] at found
        cases found
        exact Container.delete_typed (i := ⟨e, operands, s⟩) typed o h
      by_cases isCustom : t = "customOperator"
      · rw [isCustom, Registry.find?_customOperator] at found
        cases found
        exact customOperator_ensures (i := ⟨e, operands, s⟩)
          (fun name operator resolved => custom.operator name operator resolved _ typed) o h
      · have processor := Registry.standard_wellTyped found (by simp [isDelete, isCustom])
        exact (processor g.host _ ⟨e, operands, s⟩ typed o h).typed
    · exact yields _ ⟨e, operands, s⟩ holds typed o h

end Engine

end ItemScoring
