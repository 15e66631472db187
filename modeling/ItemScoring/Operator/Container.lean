import ItemScoring.Operator.Basic
/-!
# Collections and sequences

Building a collection leaves NULL operands out, and the size of NULL is zero; elsewhere a NULL
operand makes the result NULL. A collection without scalars is NULL.
-/

set_option autoImplicit false

namespace ItemScoring.Container

/-- The scalars of all operands, in order. -/
def allScalars (i : Invocation) : List Scalar :=
  i.operands.flatMap fun o => o.elim [] Value.scalars

/-- A list repeated a number of times. -/
def repeatList {α : Type} (times : Nat) (xs : List α) : List α :=
  if xs.isEmpty then [] else (List.replicate times xs).flatten

/-- The scalars of all operands, repeated, as a value of the given cardinality. -/
def build (c : Cardinality) (times : Nat) (i : Invocation) : Result Operand := do
  match ← i.commonBaseType with
  | some b => return some (.container c b (repeatList times (allScalars i)))
  | none => return some (.null c none)

/-- A collection of the operands. -/
def multiple : Invocation → Result Operand := build .multiple 1

/-- A sequence of the operands. -/
def ordered : Invocation → Result Operand := build .ordered 1

/-- The greatest number of scalars that a repetition may have, `2 ^ 20`. -/
def mostRepeated : Nat := 1048576

/-- A sequence of the operands, repeated as often as an attribute says. -/
def repeated (i : Invocation) : Result Operand := do
  let times ← i.requiredInteger "numberRepeats"
  if times.toInt < 1 then
    let b ← i.commonBaseType
    return some (.null .ordered b)
  else if mostRepeated < times.toInt.toNat * (allScalars i).length then
    Attribute.invalid i.expression "numberRepeats" (.repeats times mostRepeated)
  else build .ordered times.toInt.toNat i

/-- The number of scalars. -/
def containerSize (i : Invocation) : Result Operand :=
  .ok (some (.integer (Int64.ofNat ((i.operand? 0).elim 0 fun v => v.scalars.length))))

/-- Whether the second operand holds the first. -/
def member (i : Invocation) : Result Operand := do
  let _ ← i.commonBaseType
  match i.scalar? 0, i.operand? 1 with
  | some item, some container =>
    return .boolean (container.scalars.any fun s => s.agrees item)
  | _, _ => return .null .boolean

/-- Whether the second list begins with scalars that agree with those of the first. -/
def beginsWith : List Scalar → List Scalar → Bool
  | [], _ => true
  | _ :: _, [] => false
  | wanted :: rest, s :: ss => s.agrees wanted && beginsWith rest ss

/-- Whether the second list holds scalars that agree with those of the first, one after the
other. -/
def holdsRun (wanted : List Scalar) : List Scalar → Bool
  | [] => wanted.isEmpty
  | s :: ss => beginsWith wanted (s :: ss) || holdsRun wanted ss

/-- A list without its first scalar that agrees; the last scalar takes the place of that one. There
is none if nothing agrees. -/
def takeOut? (wanted : Scalar) : List Scalar → Option (List Scalar)
  | [] => none
  | s :: ss =>
    if s.agrees wanted then some (ss.getLast?.toList ++ ss.dropLast)
    else (takeOut? wanted ss).map (s :: ·)

/-- Whether the second list has, for every scalar of the first, one of its own that agrees. -/
def holdsEach : List Scalar → List Scalar → Bool
  | [], _ => true
  | wanted :: rest, ss =>
    match takeOut? wanted ss with
    | some others => holdsEach rest others
    | none => false

/-- Whether the first operand holds the second: a sequence as a run, a collection as a part. -/
def contains (i : Invocation) : Result Operand := do
  let _ ← i.commonBaseType
  match i.operand? 0, i.operand? 1 with
  | some whole, some part =>
    if whole.cardinality ≠ part.cardinality then
      i.refuse (.mixedCardinalities whole.cardinality part.cardinality)
    else if whole.cardinality = .ordered then
      return .boolean (holdsRun part.scalars whole.scalars)
    else return .boolean (holdsEach part.scalars whole.scalars)
  | _, _ => return .null .boolean

/-- The second operand without the scalars that agree with the first. -/
def delete (i : Invocation) : Result Operand := do
  let baseType ← i.commonBaseType
  let c := (i.operands[1]?.join).elim Cardinality.multiple Value.cardinality
  match i.scalar? 0, i.operand? 1, baseType with
  | some item, some container, some b =>
    let kept := container.scalars.filter fun s => !s.agrees item
    return some (.container container.cardinality b kept)
  | _, _, _ => return some (.null c baseType)

/-- The base type that the first operand is declared with. -/
def declaredBaseType (i : Invocation) : Option BaseType := (i.operands[0]?.join).bind Value.baseType

/-- The scalar of a sequence at a place, counted from one. -/
def index (i : Invocation) : Result Operand := do
  let n ← i.requiredInteger "n"
  let baseType := declaredBaseType i
  match i.operand? 0, baseType with
  | some container, some b =>
    if n.toInt < 1 then return some (.null .single baseType)
    else
      match container.scalars[n.toInt.toNat - 1]? with
      | some s => return some (.single b s)
      | none => return some (.null .single baseType)
  | _, _ => return some (.null .single baseType)

/-- The field of a record that an attribute names. -/
def fieldValue (i : Invocation) : Result Operand := do
  let name ← Attribute.required i.expression "fieldIdentifier"
  match ((i.operand? 0).bind Value.fields?).bind (·.lookup name) with
  | some field => return some field
  | none => return some (.null .single none)

/-- One scalar of a collection or sequence, as chance picks it. -/
def random (chance : Chance) (i : Invocation) : Result Operand :=
  match i.operand? 0 with
  | none => .ok (some (.null .single (declaredBaseType i)))
  | some container =>
    let ss := container.scalars
    match ss[(chance.slot (ss.length - 1)).val]?, container.baseType with
    | some s, some b => .ok (some (.single b s))
    | _, b => .ok (some (.null .single b))

end ItemScoring.Container
