import ItemScoring.Operator.Rounding
/-!
# Comparison

Numbers are compared exactly, within a tolerance or after rounding, and durations by length.
Matching compares two values of one shape: collections as multisets, sequences scalar by scalar, and
records field by field.
-/

set_option autoImplicit false

namespace ItemScoring.Comparison

/-- Compare the first two operands as numbers; NULL when either is none. -/
def compareNumbers (test : Float → Float → Bool) (i : Invocation) : Result Operand :=
  match i.number? 0, i.number? 1 with
  | some x, some y => .ok (.boolean (test x y))
  | _, _ => .ok (.null .boolean)

/-- Whether the first number is less. -/
def lt : Invocation → Result Operand := compareNumbers fun x y => x < y

/-- Whether the first number is greater. -/
def gt : Invocation → Result Operand := compareNumbers fun x y => x > y

/-- Whether the first number is not greater. -/
def lte : Invocation → Result Operand := compareNumbers fun x y => x ≤ y

/-- Whether the first number is not less. -/
def gte : Invocation → Result Operand := compareNumbers fun x y => x ≥ y

/-- How near two equal numbers have to be. -/
inductive ToleranceMode where
  /-- They are the same. -/
  | exact
  /-- They differ by no more than the tolerance. -/
  | absolute
  /-- They differ by no more than a percentage of the first. -/
  | relative
  deriving DecidableEq, Repr

/-- The mode that an expression asks for. -/
def toleranceMode (e : Expression) : Result ToleranceMode :=
  match e.attribute? "toleranceMode" with
  | none => .ok .exact
  | some name =>
    if name = "exact" then .ok .exact
    else if name = "absolute" then .ok .absolute
    else if name = "relative" then .ok .relative
    else Attribute.invalid e "toleranceMode" (.unknownTolerance name)

/-- The tolerances below and above; a single one counts for both sides. -/
def tolerances (i : Invocation) : Result (Float × Float) := do
  let values ← Attribute.floatList i.expression i.session "tolerance"
  let values ← Attribute.require i.expression "tolerance" values
  match values with
  | [t] => return (t, t)
  | [below, above] => return (below, above)
  | _ => Attribute.invalid i.expression "tolerance" .oneOrTwo

/-- The interval around a number that tolerances allow. -/
def toleranceInterval (mode : ToleranceMode) (x : Float) (below above : Float) : Float × Float :=
  match mode with
  | .exact => (x, x)
  | .absolute => (x - below, x + above)
  | .relative => (x * (1 - below / 100), x * (1 + above / 100))

/-- Whether the second number lies in the interval around the first that the tolerances allow. -/
def equalWithin (mode : ToleranceMode) (i : Invocation) (x y : Float) : Result Operand := do
  let (below, above) ← tolerances i
  let includeLower ← Attribute.boolean i.expression "includeLowerBound" true
  let includeUpper ← Attribute.boolean i.expression "includeUpperBound" true
  let (lower, upper) := toleranceInterval mode x below above
  let aboveLower : Bool := if includeLower then y ≥ lower else y > lower
  let belowUpper : Bool := if includeUpper then y ≤ upper else y < upper
  return .boolean (aboveLower && belowUpper)

/-- Whether two numbers are equal. -/
def equal (i : Invocation) : Result Operand := do
  let mode ← toleranceMode i.expression
  match i.number? 0, i.number? 1 with
  | some x, some y =>
    if mode = .exact then return .boolean (x == y) else equalWithin mode i x y
  | _, _ => return .null .boolean

/-- Whether two numbers are equal after rounding. -/
def equalRounded (decimals : DecimalArithmetic) (i : Invocation) : Result Operand := do
  let precision ← Rounding.precision i.expression i.session
  compareNumbers (fun x y => precision.round decimals x == precision.round decimals y) i

/-- Compare the first two operands as durations; NULL when either is none. -/
def compareDurations (test : Duration → Duration → Bool) (i : Invocation) : Result Operand :=
  match (i.scalar? 0).bind Scalar.duration?, (i.scalar? 1).bind Scalar.duration? with
  | some a, some b => .ok (.boolean (test a b))
  | _, _ => .ok (.null .boolean)

/-- Whether the first duration is shorter. -/
def durationLT : Invocation → Result Operand :=
  compareDurations fun a b => a.nanoseconds < b.nanoseconds

/-- Whether the first duration is not shorter. -/
def durationGTE : Invocation → Result Operand :=
  compareDurations fun a b => a.nanoseconds ≥ b.nanoseconds

/-- Whether two lists of scalars agree place by place. -/
def scalarsAgree : List Scalar → List Scalar → Bool
  | [], [] => true
  | s :: ss, t :: ts => s.agrees t && scalarsAgree ss ts
  | _, _ => false

mutual

/-- Whether two values are equal: they have one cardinality and equal payloads. -/
def valuesAgree : Value → Value → Bool
  | .mk c a p, w => c == w.cardinality && payloadsAgree c a p w.baseType w.payload

/-- Whether a payload of a shape is equal to a payload of the same cardinality. -/
def payloadsAgree (c : Cardinality) (a : Option BaseType) (p : Payload) (b : Option BaseType)
    (q : Payload) : Bool :=
  match p with
  | .null => q.isNull
  | .record fields =>
    match q with
    | .null => false
    | .record others =>
      c != .record || (fields.length == others.length && fieldsAgree fields others)
    | q => c != .record && scalarsAgree [] (q.normalized c b)
  | .single s =>
    !q.isNull && c != .record
      && scalarsAgree ((Payload.single s).normalized c a) (q.normalized c b)
  | .list ss =>
    !q.isNull && c != .record
      && scalarsAgree ((Payload.list ss).normalized c a) (q.normalized c b)

/-- Whether every field has an equal one of the same name among others. -/
def fieldsAgree : List (String × Value) → List (String × Value) → Bool
  | [], _ => true
  | (name, field) :: rest, others =>
    (match others.lookup name with
      | some other => valuesAgree field other
      | none => false)
      && fieldsAgree rest others

end

/-- Whether two values of one shape are equal. -/
def matchValues (i : Invocation) : Result Operand :=
  match i.operand? 0, i.operand? 1 with
  | some a, some b =>
    if a.cardinality = b.cardinality ∧ a.baseType = b.baseType then
      .ok (.boolean (valuesAgree a b))
    else i.refuse (.mixedShapes a.cardinality a.baseType b.cardinality b.baseType)
  | _, _ => .ok (.null .boolean)

end ItemScoring.Comparison
