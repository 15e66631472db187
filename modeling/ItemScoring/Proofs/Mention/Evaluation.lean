import ItemScoring.Proofs.Evaluation
import ItemScoring.Proofs.Registry
import ItemScoring.Proofs.Session
import ItemScoring.Proofs.Views

/-!
# Expressions read only the variables that they mention

A node of an expression reads the variable that its attribute `identifier` names and the variables
that its attributes refer to, and no others. The identifiers of all these variables stand in the
texts of attributes, so sessions that agree on the identifiers that occur there give an expression
one value or one error. Left out are random choices and the operators of the host.
-/

set_option autoImplicit false

namespace ItemScoring

/-! ## What a node reads -/

namespace Expression

/-- The node names the variable or refers to it. -/
def Reads (e : Expression) (identifier : String) : Prop :=
  e.attribute? "identifier" = some identifier ∨ e.RefersTo identifier

/-- Both sessions declare alike whatever the node reads. -/
def SameReads (e : Expression) (s t : Session) : Prop :=
  ∀ identifier, e.Reads identifier → s.find? identifier = t.find? identifier

/-- The identifier stands in the text of an attribute of some node. -/
def Mentions (e : Expression) (identifier : String) : Prop :=
  ∃ d ∈ e.nodes, ∃ entry ∈ d.attributes, identifier.toList <:+: entry.2.toList

variable {d e : Expression} {s t : Session} {identifier : String}

/-- What a node of an expression reads, the expression mentions. -/
theorem Reads.mentions (h : d.Reads identifier) (hd : d ∈ e.nodes) : e.Mentions identifier := by
  rcases h with named | ⟨entry, mem, refers⟩
  · exact ⟨d, hd, _, mem_of_attribute? named, List.infix_refl _⟩
  · exact ⟨d, hd, entry, mem, refers.infix⟩

/-- References find the same scalars where the variables are the same. -/
theorem SameReads.sameReferences (h : e.SameReads s t) : e.SameReferences s t := by
  intro identifier refers
  rw [h identifier (.inr refers)]

/-- Invocations with the same operands are alike when the node reads the same. -/
theorem SameReads.alike (h : e.SameReads s t) (os : List Operand) :
    Invocation.Alike ⟨e, os, s⟩ ⟨e, os, t⟩ where
  expression := rfl
  references := h.sameReferences
  shapes := rfl
  scalar? _ := rfl
  quantities := rfl
  truthValues := rfl

end Expression

/-! ## Leaf expressions -/

namespace Leaf

variable {e : Expression} {s t : Session} (h : e.SameReads s t)
include h

/-- The variable that a leaf names is the same. -/
theorem find?_identifier {id : String} (named : identifier e = .ok id) :
    s.find? id = t.find? id := by
  refine h id (.inl ?_)
  unfold identifier Attribute.required at named
  split at named
  · next raw there =>
      cases named
      exact there
  · cases named

theorem declared_eq : declared e s = declared e t := by
  refine Result.bind_congr_ok fun id named => ?_
  rw [find?_identifier h named]

theorem readVariable_eq (part : Variable → Payload) :
    readVariable part e s = readVariable part e t := by
  refine Result.bind_congr_ok fun id named => ?_
  rw [find?_identifier h named]

theorem mapResponse_eq : mapResponse e s = mapResponse e t := by
  unfold mapResponse
  rw [declared_eq h]

theorem mapResponsePoint_eq : mapResponsePoint e s = mapResponsePoint e t := by
  unfold mapResponsePoint
  rw [declared_eq h]

end Leaf

/-! ## Operators on collections and sequences -/

namespace Container

variable {e : Expression} {s t : Session} (h : e.SameReads s t) (os : List Operand)
include h

theorem build_sameReads (c : Cardinality) (times : Nat) :
    build c times ⟨e, os, s⟩ = build c times ⟨e, os, t⟩ := by
  unfold build
  rw [(h.alike os).commonBaseType]
  rfl

theorem repeated_sameReads : repeated ⟨e, os, s⟩ = repeated ⟨e, os, t⟩ := by
  unfold repeated
  simp only [(h.alike os).requiredInteger, (h.alike os).commonBaseType, build_sameReads h os]
  rfl

theorem member_sameReads : member ⟨e, os, s⟩ = member ⟨e, os, t⟩ := by
  unfold member
  rw [(h.alike os).commonBaseType]
  rfl

theorem contains_sameReads : contains ⟨e, os, s⟩ = contains ⟨e, os, t⟩ := by
  unfold contains
  rw [(h.alike os).commonBaseType]
  rfl

theorem delete_sameReads : delete ⟨e, os, s⟩ = delete ⟨e, os, t⟩ := by
  unfold delete
  rw [(h.alike os).commonBaseType]
  rfl

theorem index_sameReads : index ⟨e, os, s⟩ = index ⟨e, os, t⟩ := by
  unfold index
  rw [(h.alike os).requiredInteger]
  rfl

end Container

/-! ## The processors of the standard registry -/

/-- A processor reads no other variables than its node does, and leaves nothing to chance. -/
def Processor.ReadsWithNode : Processor → Prop
  | .leaf evaluate => ∀ host e s t, Expression.SameReads e s t →
      ∀ c c', evaluate host c e s = evaluate host c' e t
  | .operator _ process => ∀ host e os s t, Expression.SameReads e s t →
      ∀ c c', process host c ⟨e, os, s⟩ = process host c' ⟨e, os, t⟩

namespace Processor

theorem readsWithNode_leafOf {evaluate : Expression → Session → Result Operand}
    (h : ∀ e s t, Expression.SameReads e s t → evaluate e s = evaluate e t) :
    (Registry.leafOf evaluate).ReadsWithNode := fun _ e s t same _ _ => h e s t same

/-- An operator that may use the libraries of the host reads with its node when it sees attributes,
operands and nothing else. -/
theorem readsWithNode_of_host {contract : Contract} {process : Host → Invocation → Result Operand}
    (h : ∀ host i j, Invocation.Alike i j → process host i = process host j) :
    (Processor.operator contract fun host _ => process host).ReadsWithNode :=
  fun host _ os _ _ same _ _ => h host _ _ (same.alike os)

variable {least : Nat} {most : Option Nat} {cardinalities : List Cardinality}
  {baseTypes : List BaseType} {process : Invocation → Result Operand}

theorem readsWithNode_of_alike (h : ∀ i j, Invocation.Alike i j → process i = process j) :
    (Registry.operatorOf least most cardinalities baseTypes process).ReadsWithNode :=
  readsWithNode_of_host fun _ => h

/-- An operator that does not look at the session reads nothing. -/
theorem readsWithNode_of_eq (h : ∀ e os s t, process ⟨e, os, s⟩ = process ⟨e, os, t⟩) :
    (Registry.operatorOf least most cardinalities baseTypes process).ReadsWithNode :=
  fun _ e os s t _ _ _ => h e os s t

end Processor

namespace Registry

/-- The expressions that chance or the host decides. -/
def undetermined : List String := ["customOperator", "random", "randomInteger", "randomFloat"]

open Processor in
/-- Every processor of the standard registry reads with its node, apart from those that chance or
the host decides. -/
theorem standard_readsWithNode {tag : String} {p : Processor} (found : standard.find? tag = some p)
    (regular : tag ∉ undetermined) : p.ReadsWithNode := by
  revert regular
  refine find?_standard_induction (P := fun tag p => tag ∉ undetermined → p.ReadsWithNode)
    ?leaf ?logic ?comparison ?arithmetic ?function ?container ?test found
  case leaf =>
    simp only [leaves, List.forall_mem_cons]
    exact ⟨fun _ => readsWithNode_leafOf fun _ _ _ _ => rfl,
      fun _ => readsWithNode_leafOf fun _ _ _ h => Leaf.readVariable_eq h _,
      fun _ => readsWithNode_leafOf fun _ _ _ h => Leaf.readVariable_eq h _,
      fun _ => readsWithNode_leafOf fun _ _ _ h => Leaf.readVariable_eq h _,
      fun _ => readsWithNode_leafOf fun _ _ _ _ => rfl,
      fun _ => readsWithNode_leafOf fun _ _ _ _ => rfl,
      fun _ => readsWithNode_leafOf fun _ _ _ => Leaf.mapResponse_eq,
      fun _ => readsWithNode_leafOf fun _ _ _ => Leaf.mapResponsePoint_eq,
      fun regular => absurd (by decide) regular, fun regular => absurd (by decide) regular,
      List.forall_mem_nil _⟩
  case logic =>
    simp only [logic, List.forall_mem_cons]
    exact ⟨fun _ => readsWithNode_of_alike fun _ _ => Logic.and_alike,
      fun _ => readsWithNode_of_alike fun _ _ => Logic.or_alike,
      fun _ => readsWithNode_of_alike fun _ _ => Logic.not_alike,
      fun _ => readsWithNode_of_alike fun _ _ => Logic.anyN_alike,
      fun _ => readsWithNode_of_eq fun _ _ _ _ => rfl, List.forall_mem_nil _⟩
  case comparison =>
    simp only [comparisons, List.forall_mem_cons]
    refine ⟨fun _ => readsWithNode_of_alike fun _ _ => Comparison.equal_alike,
      fun _ => readsWithNode_of_host fun host _ _ h =>
        Comparison.equalRounded_alike h host.decimals,
      ?_, ?_, ?_, ?_, ?_, ?_, ?_, List.forall_mem_nil _⟩
    all_goals exact fun _ => readsWithNode_of_eq fun _ _ _ _ => rfl
  case arithmetic =>
    simp only [arithmetic, List.forall_mem_cons]
    refine ⟨?_, ?_, ?_, ?_, ?_, ?_, ?_, ?_, ?_, ?_, ?_, ?_, List.forall_mem_nil _⟩
    all_goals exact fun _ => readsWithNode_of_eq fun _ _ _ _ => rfl
  case function =>
    simp only [functions, List.forall_mem_cons]
    refine ⟨?_, ?_,
      fun _ => readsWithNode_of_host fun host _ _ h => Rounding.roundTo_alike h host.decimals,
      ?_, ?_, List.forall_mem_nil _⟩
    all_goals exact fun _ => readsWithNode_of_eq fun _ _ _ _ => rfl
  case container =>
    simp only [containers, List.forall_mem_cons]
    exact ⟨fun _ _ _ os _ _ h _ _ => Container.build_sameReads h os _ _,
      fun _ _ _ os _ _ h _ _ => Container.build_sameReads h os _ _,
      fun _ _ _ os _ _ h _ _ => Container.repeated_sameReads h os,
      fun _ => readsWithNode_of_eq fun _ _ _ _ => rfl,
      fun _ _ _ os _ _ h _ _ => Container.member_sameReads h os,
      fun _ _ _ os _ _ h _ _ => Container.contains_sameReads h os,
      fun _ _ _ os _ _ h _ _ => Container.delete_sameReads h os,
      fun _ _ _ os _ _ h _ _ => Container.index_sameReads h os,
      fun _ => readsWithNode_of_eq fun _ _ _ _ => rfl,
      fun regular => absurd (by decide) regular, List.forall_mem_nil _⟩
  case test =>
    simp only [tests, List.forall_mem_cons]
    refine ⟨?_,
      fun _ => readsWithNode_of_host fun host _ _ h => TextTest.patternMatch_alike h host.patterns,
      ?_, ?_, fun regular => absurd (by decide) regular, List.forall_mem_nil _⟩
    all_goals exact fun _ => readsWithNode_of_eq fun _ _ _ _ => rfl

end Registry

/-! ## Evaluation -/

/-- Neither chance nor the host decides about a node of the expression. -/
def Expression.IsDetermined (e : Expression) : Prop := ∀ d ∈ e.nodes, d.tag ∉ Registry.undetermined

namespace Engine

variable {g : Engine} {s t : Session}

/-- An expression comes out the same where its nodes read the same, at any two places. -/
theorem evaluateAt_eq_of_sameReads (standard : g.registry = .standard) {e : Expression}
    (determined : e.IsDetermined) (same : ∀ d ∈ e.nodes, d.SameReads s t)
    (depth place place' : Nat) : g.evaluateAt s depth place e = g.evaluateAt t depth place' e := by
  refine Result.Related.eq (evaluateAt_related ?leaf ?operator depth place place')
  case leaf =>
    intro d hd evaluate found c c'
    rw [standard] at found
    have reads := Registry.standard_readsWithNode found (determined d hd)
    exact Result.Related.of_eq (fun _ => rfl) (reads g.host d s t (same d hd) c c')
  case operator =>
    intro d hd contract process os os' found operands
    rw [standard] at found
    have reads := Registry.standard_readsWithNode found (determined d hd)
    -- The operands have come out the same, so only the sessions of the two invocations differ.
    obtain rfl : os = os' := List.forall₂_eq_eq_eq ▸ operands
    exact ⟨rfl, fun _ c c' =>
      Result.Related.of_eq (fun _ => rfl) (reads g.host d os s t (same d hd) c c')⟩

/-- Sessions that agree on every identifier that stands in the text of an attribute give an
expression the same value or the same error, wherever it stands in either case. -/
theorem evaluate_eq_of_mentions (standard : g.registry = .standard) {e : Expression}
    (determined : e.IsDetermined)
    (agree : ∀ identifier, e.Mentions identifier → s.find? identifier = t.find? identifier)
    (place place' : Nat) : g.evaluate place e s = g.evaluate place' e t := by
  refine evaluateAt_eq_of_sameReads standard determined ?_ 1 place place'
  intro d hd identifier reads
  exact agree identifier (reads.mentions hd)

/-- Two answers, the number of right answers that are asked for, and a hint. -/
def answersAndHint : Session where
  declared :=
    [⟨"FIRST", .single, some .boolean, .single (.boolean true), .null, .null, none, none, none⟩,
      ⟨"HINT", .single, some .boolean, .null, .null, .null, none, none, none⟩,
      ⟨"LEAST", .single, some .integer, .single (.integer 2), .null, .null, none, none, none⟩,
      ⟨"SECOND", .single, some .boolean, .single (.boolean false), .null, .null, none, none, none⟩]
  sorted := by decide

/-- Whether as many answers are right as are asked for. -/
def enoughAnswers : Expression :=
  ⟨"anyN", [("max", "2"), ("min", "\x7bLEAST\x7d")],
    [.leaf "variable" [("identifier", "FIRST")], .leaf "variable" [("identifier", "SECOND")]], none⟩

theorem not_mentions_hint : ¬ enoughAnswers.Mentions "HINT" := by
  simp only [Expression.Mentions, enoughAnswers, Expression.leaf, Expression.nodes,
    Expression.nodesOfAll]
  decide

/-- A variable is evaluated to the value that it has, if it is declared. -/
theorem evaluateAt_variable {depth place : Nat}
    (shallow : standard.config.checkDepth depth = .ok ()) (s : Session) (identifier : String) :
    standard.evaluateAt s depth place (.leaf "variable" [("identifier", identifier)]) =
      .ok ((s.find? identifier).map Variable.currentValue) := by
  have known : Registry.standard.find? "variable" = some (Registry.leafOf Leaf.currentValue) := by
    rw [Registry.find?_standard]
    rfl
  exact evaluateAt_eq_ok.2 ⟨shallow, .inl ⟨_, known, rfl⟩⟩

theorem evaluate_enoughAnswers :
    standard.evaluate 0 enoughAnswers answersAndHint = .ok (some (.boolean false)) := by
  have known : Registry.standard.find? "anyN" =
      some (Registry.operatorOf 1 none [.single] [.boolean] Logic.anyN) := by
    rw [Registry.find?_standard]
    rfl
  have answers : standard.evaluateAll answersAndHint 2 1 enoughAnswers.children =
      .ok [some (.boolean true), some (.boolean false)] :=
    evaluateAll_eq_ok.2
      (.cons (evaluateAt_variable rfl _ _) (.cons (evaluateAt_variable rfl _ _) .nil))
  exact evaluateAt_eq_ok.2 ⟨rfl, .inr ⟨_, _, _, known, answers, rfl, rfl⟩⟩

/-- The hint does not change whether enough answers are right. -/
theorem enoughAnswers_store_hint :
    let s := answersAndHint
    let t := s.store "HINT" (.single (.boolean true))
    enoughAnswers.IsDetermined ∧
      (∀ identifier, enoughAnswers.Mentions identifier → s.find? identifier = t.find? identifier) ∧
      s.find? "HINT" ≠ t.find? "HINT" ∧
      Engine.standard.evaluate 0 enoughAnswers s = .ok (some (.boolean false)) ∧
      Engine.standard.evaluate 0 enoughAnswers s = Engine.standard.evaluate 0 enoughAnswers t := by
  intro s t
  have determined : enoughAnswers.IsDetermined := by
    simp [Expression.IsDetermined, enoughAnswers, Expression.leaf, Expression.nodes,
      Expression.nodesOfAll, Registry.undetermined]
  have agree : ∀ identifier, enoughAnswers.Mentions identifier →
      s.find? identifier = t.find? identifier := by
    intro identifier mentioned
    refine (Session.find?_store_of_ne ?_ _).symm
    rintro rfl
    exact not_mentions_hint mentioned
  refine ⟨determined, agree, ?_, evaluate_enoughAnswers,
    evaluate_eq_of_mentions (g := Engine.standard) rfl determined agree 0 0⟩
  simp [s, t, answersAndHint, Session.find?, Session.store]

end Engine

end ItemScoring
