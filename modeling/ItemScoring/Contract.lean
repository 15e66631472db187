import ItemScoring.Error
import ItemScoring.Operand
/-!
# Contracts of operators

A contract says how many operands an operator takes, and of which cardinalities and base types.
Only the number of operands and the shapes of values other than NULL are checked; what NULL means is
up to each operator.
-/

set_option autoImplicit false

namespace ItemScoring

/-- What an operator accepts. -/
structure Contract where
  /-- The least number of operands. -/
  least : Nat
  /-- The greatest number of operands, if there is one. -/
  most : Option Nat
  /-- The cardinalities of operands. -/
  cardinalities : List Cardinality
  /-- The base types of operands. -/
  baseTypes : List BaseType
  deriving DecidableEq, Repr

namespace Contract

/-- The contract that accepts everything. -/
def any : Contract := ⟨0, none, Cardinality.all, BaseType.all⟩

/-- Check the shape of the operand at a position; NULL has any shape. -/
def checkOperand (contract : Contract) (position : Nat) (o : Operand) :
    Except ContractFault Unit :=
  match o with
  | none => .ok ()
  | some v =>
    if v.isNull then .ok ()
    else if !contract.cardinalities.contains v.cardinality then
      .error (.cardinality position v.cardinality contract.cardinalities)
    else
      match v.baseType with
      | none => .ok ()
      | some b =>
        if contract.baseTypes.contains b then .ok ()
        else .error (.baseType position b contract.baseTypes)

/-- Check the shapes of operands, the first of which is at the given position. -/
def checkOperands (contract : Contract) (position : Nat) :
    List Operand → Except ContractFault Unit
  | [] => .ok ()
  | o :: rest =>
    match contract.checkOperand position o with
    | .error fault => .error fault
    | .ok () => contract.checkOperands (position + 1) rest

/-- Check the number of operands. -/
def checkCount (contract : Contract) (count : Nat) : Except ContractFault Unit :=
  if count < contract.least then .error (.tooFew contract.least count)
  else
    match contract.most with
    | none => .ok ()
    | some most => if most < count then .error (.tooMany most count) else .ok ()

/-- Check the operands of an operator. -/
def validate (contract : Contract) (operator : String) (os : List Operand) : Result Unit :=
  match contract.checkCount os.length with
  | .error fault => .error (.validation operator fault)
  | .ok () =>
    match contract.checkOperands 1 os with
    | .error fault => .error (.validation operator fault)
    | .ok () => .ok ()

end Contract

end ItemScoring
