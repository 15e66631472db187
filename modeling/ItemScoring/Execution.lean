import ItemScoring.Outcome
import ItemScoring.Rule
/-!
# Running rules

Rules run in order and change the session. A rule that ends processing ends it from inside
conditions and groups too. An error ends processing as well, and what was assigned before it stays
assigned. The nodes of the expressions of all rules are counted in the order in which they are
written, so that every rule knows the place at which it begins.
-/

set_option autoImplicit false

namespace ItemScoring

/-- Work on a session. What is changed before an error stays changed. -/
abbrev Processing := EStateM Error Session

/-- What a session gives as a result, without a change. -/
def Processing.ofSession {α : Type} (f : Session → Result α) : Processing α := fun s =>
  match f s with
  | .ok a => .ok a s
  | .error e => .error e s

/-- How processing goes on after a rule. -/
inductive Flow where
  /-- The next rule follows. -/
  | proceed
  /-- Processing ends. -/
  | exit
  deriving DecidableEq, Repr

namespace Engine

/-- Store in an outcome the payload that a session gives. -/
def assign (identifier : String) (payload : Session → Result Payload) : Processing Flow := do
  let p ← Processing.ofSession payload
  modify fun s => s.store identifier p
  return .proceed

mutual

/-- Run a rule that begins at the given place. -/
def execute (g : Engine) (place : Nat) : Rule → Processing Flow
  | .setOutcome identifier e => assign identifier (g.assigned place identifier e)
  | .lookupOutcome identifier e => assign identifier (g.lookedUp place identifier e)
  | .condition first further otherwise => do
    match ← executeBranch g place first with
    | some flow => return flow
    | none =>
      match ← executeBranches g (place + Rule.placesOfBranch first) further with
      | some flow => return flow
      | none =>
        executeOtherwise g (place + Rule.placesOfBranch first + Rule.placesOfBranches further)
          otherwise
  | .fragment rules => executeAll g place rules
  | .exit => return .exit
termination_by structural r => r

/-- Run rules in order, up to one that ends processing. -/
def executeAll (g : Engine) (place : Nat) : List Rule → Processing Flow
  | [] => return .proceed
  | r :: rest => do
    match ← execute g place r with
    | .exit => return .exit
    | .proceed => executeAll g (place + r.places) rest
termination_by structural rs => rs

/-- Run the rules of a branch when its condition holds. -/
def executeBranch (g : Engine) (place : Nat) : Branch → Processing (Option Flow)
  | .mk condition rules => do
    if ← Processing.ofSession (g.holds place condition) then
      let flow ← executeAll g (place + condition.size) rules
      return some flow
    else return none
termination_by structural b => b

/-- Run the rules of the first branch whose condition holds. -/
def executeBranches (g : Engine) (place : Nat) : List Branch → Processing (Option Flow)
  | [] => return none
  | b :: rest => do
    match ← executeBranch g place b with
    | some flow => return some flow
    | none => executeBranches g (place + Rule.placesOfBranch b) rest
termination_by structural bs => bs

/-- Run the rules for the case that no condition holds. -/
def executeOtherwise (g : Engine) (place : Nat) : Option (List Rule) → Processing Flow
  | none => return .proceed
  | some rules => executeAll g place rules
termination_by structural rules => rules

end

/-- What a run of rules did. -/
structure Summary where
  /-- The number of rules, not counting rules inside rules. -/
  ruleCount : Nat
  /-- Whether a rule ended processing. -/
  exitedEarly : Bool
  deriving DecidableEq, Repr

/-- Run the rules of a template. -/
def run (g : Engine) (rules : List Rule) : Processing Summary := do
  let flow ← g.executeAll 0 rules
  return ⟨rules.length, flow = .exit⟩

end Engine

/-- The value of an expression, as the standard engine evaluates it. -/
def evaluateExpression (e : Expression) (s : Session) : Result Operand :=
  Engine.standard.evaluate 0 e s

/-- The session after the standard engine has run the rules of a template. -/
def runResponseProcessing (rules : List Rule) (s : Session) : Result Session :=
  match Engine.standard.run rules s with
  | .ok _ s => .ok s
  | .error e _ => .error e

/-- The values that variables hold after the rules of a template have run, all in JSON. The rules
are read before the declarations. -/
def processJson (rules declarations : Json) : Result Json := do
  let rules ← Result.ofLoad (Rule.arrayOfJson rules)
  let s ← Result.ofLoad (Session.ofJson declarations)
  let s ← runResponseProcessing rules s
  return s.valuesJson

end ItemScoring
