import ItemScoring.Config
import ItemScoring.Registry
/-!
# Evaluation of expressions

An engine evaluates an expression by its tag. A leaf expression is evaluated directly. For an
operator the children are evaluated from left to right, their values are checked against the
contract of the operator, and then the operator is called. The first error ends the evaluation.

A random choice belongs to the place of the node that makes it. The nodes of an expression are
counted from a first place, each one before its children, and the children from left to right.
-/

set_option autoImplicit false

namespace ItemScoring

/-- What evaluates expressions and runs rules. -/
structure Engine where
  /-- How the engine is set up. -/
  config : Config
  /-- How expressions are evaluated, by tag. -/
  registry : Registry
  /-- What the surroundings decide. -/
  host : Host

namespace Engine

/-- The engine with the standard configuration and registry, and no operators of a host. -/
def standard : Engine := ⟨.standard, .standard, .plain⟩

mutual

/-- The value of an expression that stands at the given depth and place. -/
def evaluateAt (g : Engine) (s : Session) (depth place : Nat) : Expression → Result Operand
  | ⟨tag, attributes, children, literal⟩ => do
    g.config.checkDepth depth
    match g.registry.find? tag with
    | none => .error (.unknownExpression tag)
    | some (.leaf evaluate) =>
      evaluate g.host (g.host.chance place) ⟨tag, attributes, children, literal⟩ s
    | some (.operator contract process) =>
      let operands ← evaluateAll g s (depth + 1) (place + 1) children
      contract.validate tag operands
      process g.host (g.host.chance place) ⟨⟨tag, attributes, children, literal⟩, operands, s⟩
termination_by structural e => e

/-- The values of expressions that stand at the given depth, from left to right; the first of them
stands at the given place. -/
def evaluateAll (g : Engine) (s : Session) (depth place : Nat) :
    List Expression → Result (List Operand)
  | [] => .ok []
  | e :: rest => do
    let o ← evaluateAt g s depth place e
    let os ← evaluateAll g s depth (place + e.size) rest
    return o :: os
termination_by structural es => es

end

/-- The value of an expression whose nodes are counted from the given place. It is nothing where
nothing is declared, while a declared variable that holds nothing gives the NULL of its shape. -/
def evaluate (g : Engine) (place : Nat) (e : Expression) (s : Session) : Result Operand :=
  g.evaluateAt s 1 place e

end Engine

end ItemScoring
