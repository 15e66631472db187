import ItemScoring.Rule
import ItemScoring.Proofs.Json.Expression
import ItemScoring.Proofs.Rule

/-!
# Rules through JSON

A rule may be written in more than one way: empty rules of a fragment or a branch may be left out,
as may an empty list of further branches; a condition without last rules says `null` for them or
says nothing; and last rules are an array, or an object with the rules. `Rule.Written` has one
constructor for each way. Whatever way is taken at each place of a tree, the rules are read back as
they are.
-/

set_option autoImplicit false

namespace ItemScoring

/-! ## Written forms -/

namespace Rule

mutual

/-- The JSON that a rule is written as. -/
inductive Written : Rule → Json → Prop where
  | setOutcome {identifier : String} {e : Expression} {members : List (String × Json)}
      (tag : members.lookup "tag" = some (.string "setOutcomeValue"))
      (target : members.lookup "identifier" = some (.string identifier))
      (expression : members.lookup "expression" = some e.toJson) :
      Written (.setOutcome identifier e) (.object members)
  | lookupOutcome {identifier : String} {e : Expression} {members : List (String × Json)}
      (tag : members.lookup "tag" = some (.string "lookupOutcomeValue"))
      (target : members.lookup "identifier" = some (.string identifier))
      (expression : members.lookup "expression" = some e.toJson) :
      Written (.lookupOutcome identifier e) (.object members)
  | exit {members : List (String × Json)}
      (tag : members.lookup "tag" = some (.string "exitResponse")) :
      Written .exit (.object members)
  | fragment {rules : List Rule} {members : List (String × Json)}
      (tag : members.lookup "tag" = some (.string "responseProcessingFragment"))
      (body : BodyWritten rules (members.lookup "rules")) :
      Written (.fragment rules) (.object members)
  | condition {first : Branch} {further : List Branch} {otherwise : Option (List Rule)}
      {members : List (String × Json)} {raw : Json}
      (tag : members.lookup "tag" = some (.string "responseCondition"))
      (found : members.lookup "responseIf" = some raw)
      (leading : BranchWritten first raw)
      (following : FurtherWritten further (members.lookup "responseElseIf"))
      (last : OtherwiseWritten otherwise (members.lookup "responseElse")) :
      Written (.condition first further otherwise) (.object members)

/-- The items of an array of rules. -/
inductive ListWritten : List Rule → List Json → Prop where
  | nil : ListWritten [] []
  | cons {rule : Rule} {rules : List Rule} {item : Json} {items : List Json}
      (first : Written rule item) (rest : ListWritten rules items) :
      ListWritten (rule :: rules) (item :: items)

/-- The member with the rules of a fragment or a branch; there may be none when there are no rules.
-/
inductive BodyWritten : List Rule → Option Json → Prop where
  | omitted : BodyWritten [] none
  | array {rules : List Rule} {items : List Json} (list : ListWritten rules items) :
      BodyWritten rules (some (.array items))

/-- The JSON that a branch is written as. -/
inductive BranchWritten : Branch → Json → Prop where
  | mk {e : Expression} {rules : List Rule} {members : List (String × Json)}
      (expression : members.lookup "expression" = some e.toJson)
      (body : BodyWritten rules (members.lookup "rules")) :
      BranchWritten (.mk e rules) (.object members)

/-- The items of an array of branches. -/
inductive BranchesWritten : List Branch → List Json → Prop where
  | nil : BranchesWritten [] []
  | cons {branch : Branch} {branches : List Branch} {item : Json} {items : List Json}
      (first : BranchWritten branch item) (rest : BranchesWritten branches items) :
      BranchesWritten (branch :: branches) (item :: items)

/-- The member with the further branches of a condition; there may be none when there are no further
branches. -/
inductive FurtherWritten : List Branch → Option Json → Prop where
  | omitted : FurtherWritten [] none
  | array {branches : List Branch} {items : List Json} (list : BranchesWritten branches items) :
      FurtherWritten branches (some (.array items))

/-- The member with the last rules of a condition. -/
inductive OtherwiseWritten : Option (List Rule) → Option Json → Prop where
  | omitted : OtherwiseWritten none none
  | null : OtherwiseWritten none (some .null)
  | array {rules : List Rule} {items : List Json} (list : ListWritten rules items) :
      OtherwiseWritten (some rules) (some (.array items))
  | object {rules : List Rule} {members : List (String × Json)}
      (body : BodyWritten rules (members.lookup "rules")) :
      OtherwiseWritten (some rules) (some (.object members))

end

/-! ## Looking members up -/

variable {members : List (String × Json)}

theorem rulesMember_eq (members : List (String × Json)) :
    rulesMember members = (members.lookup "rules").elim (.ok []) arrayOfJson :=
  Json.lookup_elim rfl (fun _ _ _ => rfl) members

theorem firstBranch_eq (members : List (String × Json)) :
    firstBranch members =
      (members.lookup "responseIf").elim (.error (.malformed .firstBranch)) branchOfJson :=
  Json.lookup_elim rfl (fun _ _ _ => rfl) members

theorem furtherBranches_eq (members : List (String × Json)) :
    furtherBranches members = (members.lookup "responseElseIf").elim (.ok []) branchArray :=
  Json.lookup_elim rfl (fun _ _ _ => rfl) members

theorem otherwiseMember_eq (members : List (String × Json)) :
    otherwiseMember members = (members.lookup "responseElse").elim (.ok none) otherwiseOfJson :=
  Json.lookup_elim rfl (fun _ _ _ => rfl) members

theorem stringField_eq {name text : String} (h : members.lookup name = some (.string text)) :
    (Json.object members).stringField name = .ok text := by
  have found : ((Json.object members).member? name).bind Json.string? = some text := by
    rw [Json.member?, h]
    rfl
  rw [Json.stringField, found]

theorem expressionMember_eq {e : Expression}
    (h : members.lookup "expression" = some e.toJson) : expressionMember members = .ok e := by
  rw [expressionMember, h]
  exact Expression.ofJson_toJson e

theorem assignment_eq {identifier : String} {e : Expression}
    (target : members.lookup "identifier" = some (.string identifier))
    (expression : members.lookup "expression" = some e.toJson) :
    assignment members = .ok (identifier, e) := by
  rw [assignment, stringField_eq target, expressionMember_eq expression]
  rfl

/-! ## Reading -/

-- The recursion is on how a rule is written, not on the rule: what is written for the rules inside
-- a rule is a part of what is written for the rule.
mutual

theorem ofJson_of_written : ∀ {r : Rule} {j : Json}, Written r j → ofJson j = .ok r
  | _, _, .setOutcome tag target expression => by
      rw [ofJson, stringField_eq tag]
      change (assignment _ >>= _) = _
      rw [assignment_eq target expression]
      rfl
  | _, _, .lookupOutcome tag target expression => by
      rw [ofJson, stringField_eq tag]
      change (assignment _ >>= _) = _
      rw [assignment_eq target expression]
      rfl
  | _, _, .exit tag => by
      rw [ofJson, stringField_eq tag]
      rfl
  | _, _, .fragment tag body => by
      rw [ofJson, stringField_eq tag]
      change (rulesMember _ >>= _) = _
      rw [rulesMember_eq, body_of_written body]
      rfl
  | _, _, .condition tag found leading following last => by
      rw [ofJson, stringField_eq tag]
      change (firstBranch _ >>= _) = _
      rw [firstBranch_eq, found, furtherBranches_eq, further_of_written following,
        otherwiseMember_eq, otherwise_of_written last]
      change (branchOfJson _ >>= _) = _
      rw [branchOfJson_of_written leading]
      rfl

theorem listOfJson_of_written :
    ∀ {rules : List Rule} {items : List Json}, ListWritten rules items →
      listOfJson items = .ok rules
  | _, _, .nil => rfl
  | _, _, .cons first rest => by
      rw [listOfJson, ofJson_of_written first, listOfJson_of_written rest]
      rfl

theorem body_of_written :
    ∀ {rules : List Rule} {raw : Option Json}, BodyWritten rules raw →
      raw.elim (.ok []) arrayOfJson = .ok rules
  | _, _, .omitted => rfl
  | _, _, .array list => listOfJson_of_written list

theorem branchOfJson_of_written :
    ∀ {b : Branch} {j : Json}, BranchWritten b j → branchOfJson j = .ok b
  | _, _, .mk expression body => by
      rw [branchOfJson, expressionMember_eq expression, rulesMember_eq, body_of_written body]
      rfl

theorem branchList_of_written :
    ∀ {branches : List Branch} {items : List Json}, BranchesWritten branches items →
      branchList items = .ok branches
  | _, _, .nil => rfl
  | _, _, .cons first rest => by
      rw [branchList, branchOfJson_of_written first, branchList_of_written rest]
      rfl

theorem further_of_written :
    ∀ {branches : List Branch} {raw : Option Json}, FurtherWritten branches raw →
      raw.elim (.ok []) branchArray = .ok branches
  | _, _, .omitted => rfl
  | _, _, .array list => branchList_of_written list

theorem otherwise_of_written :
    ∀ {otherwise : Option (List Rule)} {raw : Option Json}, OtherwiseWritten otherwise raw →
      raw.elim (.ok none) otherwiseOfJson = .ok otherwise
  | _, _, .omitted => rfl
  | _, _, .null => rfl
  | _, _, .array list => congrArg (Except.map some) (listOfJson_of_written list)
  | _, _, .object body => by
      change (rulesMember _).map some = _
      rw [rulesMember_eq, body_of_written body]
      rfl

end

/-! ## Every rule is written in some form -/

theorem exists_listWritten {rules : List Rule} (h : ∀ r ∈ rules, ∃ j, Written r j) :
    ∃ items, ListWritten rules items := by
  induction rules with
  | nil => exact ⟨[], .nil⟩
  | cons r rest ih =>
      obtain ⟨first, others⟩ := List.forall_mem_cons.1 h
      obtain ⟨item, written⟩ := first
      obtain ⟨items, list⟩ := ih others
      exact ⟨item :: items, .cons written list⟩

theorem exists_branchWritten {b : Branch} (h : ∀ r ∈ b.rules, ∃ j, Written r j) :
    ∃ j, BranchWritten b j := by
  obtain ⟨e, rules⟩ := b
  obtain ⟨items, list⟩ := exists_listWritten h
  exact ⟨.object [("expression", e.toJson), ("rules", .array items)], .mk rfl (.array list)⟩

theorem exists_branchesWritten {branches : List Branch}
    (h : ∀ b ∈ branches, ∀ r ∈ b.rules, ∃ j, Written r j) :
    ∃ items, BranchesWritten branches items := by
  induction branches with
  | nil => exact ⟨[], .nil⟩
  | cons b rest ih =>
      obtain ⟨first, others⟩ := List.forall_mem_cons.1 h
      obtain ⟨item, written⟩ := exists_branchWritten first
      obtain ⟨items, list⟩ := ih others
      exact ⟨item :: items, .cons written list⟩

theorem exists_otherwiseWritten {otherwise : Option (List Rule)}
    (h : ∀ rules ∈ otherwise, ∀ r ∈ rules, ∃ j, Written r j) :
    ∃ j, OtherwiseWritten otherwise (some j) := by
  cases otherwise with
  | none => exact ⟨.null, .null⟩
  | some rules =>
      obtain ⟨items, list⟩ := exists_listWritten (h rules rfl)
      exact ⟨.array items, .array list⟩

theorem exists_written (r : Rule) : ∃ j, Written r j := by
  induction r using induction with
  | rule r ih =>
      cases r with
      | setOutcome identifier e =>
          exact ⟨.object [("expression", e.toJson), ("identifier", .string identifier),
            ("tag", .string "setOutcomeValue")], .setOutcome rfl rfl rfl⟩
      | lookupOutcome identifier e =>
          exact ⟨.object [("expression", e.toJson), ("identifier", .string identifier),
            ("tag", .string "lookupOutcomeValue")], .lookupOutcome rfl rfl rfl⟩
      | exit => exact ⟨.object [("tag", .string "exitResponse")], .exit rfl⟩
      | fragment rules =>
          obtain ⟨items, list⟩ := exists_listWritten (ih rules List.mem_cons_self)
          exact ⟨.object [("rules", .array items), ("tag", .string "responseProcessingFragment")],
            .fragment rfl (.array list)⟩
      | condition first further otherwise =>
          have branches : ∀ b ∈ first :: further, ∀ r ∈ b.rules, ∃ j, Written r j :=
            fun b hb => ih b.rules (mem_bodies_of_branch hb)
          have last : ∀ rules ∈ otherwise, ∀ r ∈ rules, ∃ j, Written r j :=
            fun rules h => ih rules (mem_bodies_of_otherwise h)
          obtain ⟨leadingBranch, others⟩ := List.forall_mem_cons.1 branches
          obtain ⟨raw, leading⟩ := exists_branchWritten leadingBranch
          obtain ⟨items, following⟩ := exists_branchesWritten others
          obtain ⟨final, ending⟩ := exists_otherwiseWritten last
          exact ⟨.object [("responseElse", final), ("responseElseIf", .array items),
            ("responseIf", raw), ("tag", .string "responseCondition")],
            .condition rfl rfl leading (.array following) ending⟩

/-! ## Loading -/

/-- Expressions are read back from their JSON form. Every list of rules can be written, and in
whatever form it is written, it is read back as the same list. -/
theorem loads_what_is_written :
    (∀ e : Expression, Expression.ofJson e.toJson = .ok e) ∧
      ∀ rules : List Rule, (∃ items, ListWritten rules items) ∧
        ∀ items, ListWritten rules items → arrayOfJson (.array items) = .ok rules := by
  refine ⟨Expression.ofJson_toJson, fun rules => ⟨?_, fun items written => ?_⟩⟩
  · exact exists_listWritten fun r _ => exists_written r
  · exact listOfJson_of_written written

/-- Two conditions and an assignment: the first condition has rules of all kinds, the second has
none anywhere. -/
def grading : List Rule :=
  [.condition (.mk (.leaf "null" []) [.exit]) [.mk (.leaf "null" []) []] (some [.fragment []]),
    .condition (.mk (.leaf "null" []) []) [] (some []),
    .lookupOutcome "GRADE" (.leaf "null" [])]

/-- The rules with whatever may be left out left out, except for the first rules. -/
def gradingItems : List Json :=
  let test := (Expression.leaf "null" []).toJson
  [.object
      [("responseElse", .array [.object [("tag", .string "responseProcessingFragment")]]),
        ("responseElseIf", .array [.object [("expression", test)]]),
        ("responseIf",
          .object
            [("expression", test), ("rules", .array [.object [("tag", .string "exitResponse")]])]),
        ("tag", .string "responseCondition")],
    .object
      [("responseElse", .object []), ("responseIf", .object [("expression", test)]),
        ("tag", .string "responseCondition")],
    .object
      [("expression", test), ("identifier", .string "GRADE"),
        ("tag", .string "lookupOutcomeValue")]]

theorem grading_loads :
    ListWritten grading gradingItems ∧ arrayOfJson (.array gradingItems) = .ok grading := by
  have first : Written (.condition (.mk (.leaf "null" []) [.exit]) [.mk (.leaf "null" []) []]
      (some [.fragment []])) gradingItems[0] := by
    refine .condition rfl rfl (.mk rfl (.array (.cons (.exit rfl) .nil))) ?_ ?_
    · exact .array (.cons (.mk rfl .omitted) .nil)
    · exact .array (.cons (.fragment rfl .omitted) .nil)
  have second : Written (.condition (.mk (.leaf "null" []) []) [] (some [])) gradingItems[1] :=
    .condition rfl rfl (.mk rfl .omitted) .omitted (.object .omitted)
  have written : ListWritten grading gradingItems :=
    .cons first (.cons second (.cons (.lookupOutcome rfl rfl rfl) .nil))
  exact ⟨written, (loads_what_is_written.2 grading).2 gradingItems written⟩

end Rule

end ItemScoring
