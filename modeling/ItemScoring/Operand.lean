import ItemScoring.Session
/-!
# Operands

An operand is the value of a child expression, or nothing at all where a child yields nothing. An
absent operand and a NULL value both count as NULL. Operands are flattened into one stream of
scalars, in which the scalars of an unordered collection are sorted, and from which operators on
numbers take the finite ones.
-/

set_option autoImplicit false

namespace ItemScoring

/-- The value of a child expression, when it yields one. -/
abbrev Operand := Option Value

namespace Operand

/-- Whether an operand is absent or NULL. -/
def isNull (o : Operand) : Bool := o.elim true Value.isNull

/-- Whether some operand is absent or NULL. -/
def anyNull (os : List Operand) : Bool := os.any isNull

/-- Whether every value among the operands is declared an integer. -/
def allInteger (os : List Operand) : Bool :=
  os.all fun o => o.elim true fun v => v.baseType == some .integer

end Operand

/-- The scalars of a payload in the kind of its base type, sorted for an unordered collection. -/
def Payload.normalized (c : Cardinality) (b : Option BaseType) (p : Payload) : List Scalar :=
  let scalars := b.elim p.scalars fun b => p.scalars.map (Scalar.recast b)
  if c = .multiple then Scalar.sort scalars else scalars

mutual

/-- The scalars of a value as a stream, in which nothing stands for NULL. A record contributes its
fields in order. -/
def Value.stream : Value → List (Option Scalar)
  | .mk c b p => Payload.stream c b p

/-- The scalars of a payload of the given shape as a stream. -/
def Payload.stream (c : Cardinality) (b : Option BaseType) : Payload → List (Option Scalar)
  | .null => [none]
  | .single s => ((Payload.single s).normalized c b).map some
  | .list ss => ((Payload.list ss).normalized c b).map some
  | .record fields => Value.fieldStream fields

/-- The scalars of the fields of a record as a stream. -/
def Value.fieldStream : List (String × Value) → List (Option Scalar)
  | [] => []
  | (_, field) :: rest => field.stream ++ Value.fieldStream rest

end

/-- The scalars of operands as a stream; nothing stands for an absent operand. -/
def Operand.stream (os : List Operand) : List (Option Scalar) :=
  os.flatMap fun o => o.elim [none] Value.stream

/-- A finite number among the operands. -/
inductive Quantity where
  /-- An integer. -/
  | integer (n : Int64)
  /-- A floating-point number. -/
  | float (x : Float)

namespace Quantity

/-- The number as a floating-point number. -/
def toFloat : Quantity → Float
  | .integer n => Binary64.ofInteger n.toInt
  | .float x => x

/-- The integer of an integer. -/
def int64? : Quantity → Option Int64
  | .integer n => some n
  | .float _ => none

/-- The finite number that a scalar is. -/
def ofScalar? : Scalar → Option Quantity
  | .integer n => some (.integer n)
  | .float x => if x.toFloat.isFinite then some (.float x.toFloat) else none
  | _ => none

/-- The finite numbers among the operands; everything else is left out. -/
def ofOperands (os : List Operand) : List Quantity :=
  (Operand.stream os).filterMap fun s => s.bind ofScalar?

/-- The integers, when all are integers. -/
def integers? : List Quantity → Option (List Int64)
  | [] => some []
  | q :: rest => do
    let n ← q.int64?
    let ns ← integers? rest
    return n :: ns

end Quantity

end ItemScoring
