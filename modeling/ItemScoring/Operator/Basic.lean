import ItemScoring.Attribute
import ItemScoring.Contract
import ItemScoring.Numeric.Decimal
import ItemScoring.Pattern.Language
/-!
# Operators and what they are given

An operator is called with its expression, the values of its operands and the session. Beside that
it may use the host, which knows operators of its own, matches patterns, rounds decimals and decides
how random choices come out. Every place where a choice is made has a choice of its own.
-/

set_option autoImplicit false

namespace ItemScoring

/-- What an operator is called with. -/
structure Invocation where
  /-- The expression whose operator is called. -/
  expression : Expression
  /-- The values of the children of the expression. -/
  operands : List Operand
  /-- The variables. -/
  session : Session

namespace Invocation

/-- The tag of the expression. -/
def tag (i : Invocation) : String := i.expression.tag

/-- The operand at an index, when it is there and is not NULL. -/
def operand? (i : Invocation) (index : Nat) : Option Value :=
  (i.operands[index]?.join).filter fun v => !v.isNull

/-- The scalar of the operand at an index. -/
def scalar? (i : Invocation) (index : Nat) : Option Scalar :=
  (i.operand? index).bind Value.single?

/-- The number of the operand at an index, when it is one. -/
def number? (i : Invocation) (index : Nat) : Option Float :=
  ((i.scalar? index).bind Scalar.number?).filter fun x => !x.isNaN

/-- Whether some operand is NULL. -/
def anyNull (i : Invocation) : Bool := Operand.anyNull i.operands

/-- Report that the operands do not go together. -/
def refuse {α : Type} (i : Invocation) (fault : ContractFault) : Result α :=
  .error (.validation i.tag fault)

/-- Report that an integer result is out of range. -/
def overflow {α : Type} (i : Invocation) : Result α := .error (.overflow i.tag)

/-- An attribute of the expression as an integer, which has to be there. -/
def requiredInteger (i : Invocation) (name : String) : Result Int64 := do
  let n ← Attribute.integer i.expression i.session name
  Attribute.require i.expression name n

/-- The base type that the operands other than NULL share, continued from that of the operands
before. Records have none. -/
def sharedBaseType (i : Invocation) (found : Option BaseType) :
    List Operand → Result (Option BaseType)
  | [] => .ok found
  | none :: rest => i.sharedBaseType found rest
  | some v :: rest =>
    if v.isNull then i.sharedBaseType found rest
    else
      match found, v.baseType with
      | none, b => i.sharedBaseType b rest
      | some a, none => i.sharedBaseType (some a) rest
      | some a, some b =>
        if a = b then i.sharedBaseType (some a) rest else i.refuse (.mixedBaseTypes a b)

/-- The base type that the operands other than NULL share. -/
def commonBaseType (i : Invocation) : Result (Option BaseType) :=
  i.sharedBaseType none i.operands

end Invocation

/-- A truth value as the result of an operator. -/
def Operand.boolean (b : Bool) : Operand := some (.boolean b)

/-- The single NULL of a base type as the result of an operator. -/
def Operand.null (b : BaseType) : Operand := some (.nullOf b)

/-- A finite number as the result of an operator; any other result is NULL. -/
def Operand.finite (x : Float) : Operand :=
  if x.isFinite then some (.float x) else .null .float

/-- An operator that the host knows. -/
structure CustomOperator where
  /-- What it accepts. -/
  contract : Contract
  /-- What it computes. -/
  process : Invocation → Result Operand

/-- How a random choice comes out. -/
structure Chance where
  /-- The choice among numbered possibilities, of which the last is given. -/
  slot : (last : Nat) → Fin (last + 1)
  /-- The choice of a fraction, from zero up to but not including one. -/
  fraction : Float

/-- The first possibility is always chosen. -/
def Chance.first : Chance := ⟨fun _ => 0, 0⟩

/-- What the surroundings of an evaluation decide. -/
structure Host where
  /-- The operator of a class. -/
  resolve : String → Option CustomOperator
  /-- The language of patterns. -/
  patterns : PatternLanguage
  /-- Arithmetic with decimals. -/
  decimals : DecimalArithmetic
  /-- How the choice at each place comes out. The places are the nodes of all expressions that
  belong together, counted in the order in which they are written. -/
  chance : Nat → Chance

/-- The host that knows no operators. -/
def Host.plain : Host := ⟨fun _ => none, .builtIn, .builtIn, fun _ => .first⟩

end ItemScoring
