import ItemScoring.Operator.Basic
/-!
# Logic

Conjunction and disjunction have three values: an operand that decides wins over NULL. Whether a
value is NULL is never NULL itself.
-/

set_option autoImplicit false

namespace ItemScoring.Logic

/-- The truth values of the operands; NULL and everything else is nothing. -/
def truthValues (i : Invocation) : List (Option Bool) :=
  (Operand.stream i.operands).map fun s => s.bind Scalar.bool?

/-- True when all operands are. -/
def and (i : Invocation) : Result Operand :=
  let values := truthValues i
  if values.contains (some false) then .ok (.boolean false)
  else if values.contains none then .ok (.null .boolean)
  else .ok (.boolean true)

/-- True when some operand is. -/
def or (i : Invocation) : Result Operand :=
  let values := truthValues i
  if values.contains (some true) then .ok (.boolean true)
  else if values.contains none then .ok (.null .boolean)
  else .ok (.boolean false)

/-- True when the operand is false. -/
def not (i : Invocation) : Result Operand :=
  match (i.scalar? 0).bind Scalar.bool? with
  | some b => .ok (.boolean !b)
  | none => .ok (.null .boolean)

/-- True for NULL and for the empty text. -/
def isNull (i : Invocation) : Result Operand :=
  match i.operand? 0 with
  | none => .ok (.boolean true)
  | some v =>
    match v.single? with
    | some (.string s) => .ok (.boolean s.isEmpty)
    | _ => .ok (.boolean false)

/-- True when the number of true operands lies between two bounds, and NULL when that depends on
what stands for NULL. -/
def anyN (i : Invocation) : Result Operand := do
  let least ← i.requiredInteger "min"
  let most ← i.requiredInteger "max"
  let values := truthValues i
  let trues : Int := values.count (some true)
  let nulls : Int := values.count none
  if trues > most.toInt ∨ trues + nulls < least.toInt then return .boolean false
  else if trues ≥ least.toInt ∧ trues + nulls ≤ most.toInt then return .boolean true
  else return .null .boolean

end ItemScoring.Logic
