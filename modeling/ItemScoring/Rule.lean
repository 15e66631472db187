import ItemScoring.Expression
import ItemScoring.Mapping
/-!
# Response rules

A rule assigns an outcome, looks an outcome up in a table, chooses between lists of rules, groups
rules, or ends processing. A rule is read from JSON by its tag.
-/

set_option autoImplicit false

namespace ItemScoring

mutual

/-- A response rule. -/
inductive Rule where
  /-- Assign the value of an expression to an outcome. -/
  | setOutcome (identifier : String) (expression : Expression)
  /-- Look the value of an expression up in the table of an outcome and assign what is found. -/
  | lookupOutcome (identifier : String) (expression : Expression)
  /-- Run the rules of the first branch whose condition holds, or else the last rules. -/
  | condition (first : Branch) (further : List Branch) (otherwise : Option (List Rule))
  /-- Run rules in order. -/
  | fragment (rules : List Rule)
  /-- End processing. -/
  | exit

/-- Rules under a condition. -/
inductive Branch where
  /-- Rules that run when the expression is true. -/
  | mk (condition : Expression) (rules : List Rule)

end

namespace Branch

/-- When the rules run. -/
def condition : Branch → Expression
  | mk condition _ => condition

/-- The rules. -/
def rules : Branch → List Rule
  | mk _ rules => rules

end Branch

namespace Rule

/-- The tag of a rule. -/
def tag : Rule → String
  | setOutcome _ _ => "setOutcomeValue"
  | lookupOutcome _ _ => "lookupOutcomeValue"
  | condition _ _ _ => "responseCondition"
  | fragment _ => "responseProcessingFragment"
  | exit => "exitResponse"

mutual

/-- The number of nodes of all expressions in a rule. -/
def places : Rule → Nat
  | .setOutcome _ e => e.size
  | .lookupOutcome _ e => e.size
  | .condition first further otherwise =>
    placesOfBranch first + placesOfBranches further + placesOfOtherwise otherwise
  | .fragment rules => placesOfAll rules
  | .exit => 0
termination_by structural r => r

/-- The number of nodes of all expressions in rules. -/
def placesOfAll : List Rule → Nat
  | [] => 0
  | r :: rest => places r + placesOfAll rest
termination_by structural rs => rs

/-- The number of nodes of all expressions in a branch; those of its condition come first. -/
def placesOfBranch : Branch → Nat
  | .mk e rules => e.size + placesOfAll rules
termination_by structural b => b

/-- The number of nodes of all expressions in branches. -/
def placesOfBranches : List Branch → Nat
  | [] => 0
  | b :: rest => placesOfBranch b + placesOfBranches rest
termination_by structural bs => bs

/-- The number of nodes of all expressions in the rules for the case that no condition holds. -/
def placesOfOtherwise : Option (List Rule) → Nat
  | none => 0
  | some rules => placesOfAll rules
termination_by structural rules => rules

end

/-- The expression among the members of a rule or branch. -/
def expressionMember (members : List (String × Json)) : Except LoadError Expression :=
  match members.lookup "expression" with
  | some raw => Expression.ofJson raw
  | none => .error (.malformed (.expressionField "expression"))

/-- The identifier and the expression of an assignment. -/
def assignment (members : List (String × Json)) : Except LoadError (String × Expression) := do
  let identifier ← (Json.object members).stringField "identifier"
  let expression ← expressionMember members
  return (identifier, expression)

mutual

/-- The rule that JSON stands for. -/
def ofJson : Json → Except LoadError Rule
  | .object members => do
    let tag ← (Json.object members).stringField "tag"
    if tag = "setOutcomeValue" then
      let (identifier, expression) ← assignment members
      return .setOutcome identifier expression
    else if tag = "lookupOutcomeValue" then
      let (identifier, expression) ← assignment members
      return .lookupOutcome identifier expression
    else if tag = "exitResponse" then return .exit
    else if tag = "responseProcessingFragment" then
      let rules ← rulesMember members
      return .fragment rules
    else if tag = "responseCondition" then
      let first ← firstBranch members
      let further ← furtherBranches members
      let otherwise ← otherwiseMember members
      return .condition first further otherwise
    else .error (.unknownRule tag)
  | _ => .error (.malformed (.stringField "tag"))
termination_by structural j => j

/-- Rules in an array. -/
def arrayOfJson : Json → Except LoadError (List Rule)
  | .array items => listOfJson items
  | _ => .error (.malformed .ruleList)
termination_by structural j => j

/-- Rules, in order. -/
def listOfJson : List Json → Except LoadError (List Rule)
  | [] => .ok []
  | item :: rest => do
    let rule ← ofJson item
    let rules ← listOfJson rest
    return rule :: rules
termination_by structural items => items

/-- The rules among the members of a rule or branch; there may be none. -/
def rulesMember : List (String × Json) → Except LoadError (List Rule)
  | [] => .ok []
  | (name, raw) :: rest => if name = "rules" then arrayOfJson raw else rulesMember rest
termination_by structural members => members

/-- A branch of a condition. -/
def branchOfJson : Json → Except LoadError Branch
  | .object members => do
    let condition ← expressionMember members
    let rules ← rulesMember members
    return .mk condition rules
  | _ => .error (.malformed (.expressionField "expression"))
termination_by structural j => j

/-- Branches, in order. -/
def branchList : List Json → Except LoadError (List Branch)
  | [] => .ok []
  | item :: rest => do
    let branch ← branchOfJson item
    let branches ← branchList rest
    return branch :: branches
termination_by structural items => items

/-- The first branch among the members of a condition. -/
def firstBranch : List (String × Json) → Except LoadError Branch
  | [] => .error (.malformed .firstBranch)
  | (name, raw) :: rest => if name = "responseIf" then branchOfJson raw else firstBranch rest
termination_by structural members => members

/-- Branches in an array. -/
def branchArray : Json → Except LoadError (List Branch)
  | .array items => branchList items
  | _ => .error (.malformed .furtherBranches)
termination_by structural j => j

/-- The further branches among the members of a condition; there may be none. -/
def furtherBranches : List (String × Json) → Except LoadError (List Branch)
  | [] => .ok []
  | (name, raw) :: rest =>
    if name = "responseElseIf" then branchArray raw else furtherBranches rest
termination_by structural members => members

/-- The rules that run when no condition holds: an array, an object with rules, or `null` for
none. -/
def otherwiseOfJson : Json → Except LoadError (Option (List Rule))
  | .null => .ok none
  | .array items => (listOfJson items).map some
  | .object members => (rulesMember members).map some
  | _ => .ok (some [])
termination_by structural j => j

/-- The rules among the members of a condition that run when no condition holds. -/
def otherwiseMember : List (String × Json) → Except LoadError (Option (List Rule))
  | [] => .ok none
  | (name, raw) :: rest =>
    if name = "responseElse" then otherwiseOfJson raw else otherwiseMember rest
termination_by structural members => members

end

end Rule

end ItemScoring
