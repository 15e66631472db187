import ItemScoring.Operator.Basic
/-!
# Operators of the host
-/

set_option autoImplicit false

namespace ItemScoring

/-- Call the operator of the host whose class an attribute names. Its contract is checked under the
name of the class. -/
def customOperator (host : Host) (i : Invocation) : Result Operand := do
  let operatorClass ← Attribute.required i.expression "class"
  match host.resolve operatorClass with
  | none => .error (.unresolved operatorClass)
  | some operator =>
    operator.contract.validate operatorClass i.operands
    operator.process i

end ItemScoring
