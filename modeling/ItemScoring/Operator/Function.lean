import ItemScoring.Operator.Basic
/-!
# Functions of numbers

Trigonometric, hyperbolic, exponential and rounding functions of a number, selected by name. A
result that is undefined, or is not finite, is NULL.
-/

set_option autoImplicit false

namespace ItemScoring.Function

/-- The functions whose results are floating-point numbers. -/
def realFunctions : List (String × (Float → Float)) :=
  [("sin", Float.sin), ("cos", Float.cos), ("tan", Float.tan),
    ("sec", fun x => 1 / x.cos), ("csc", fun x => 1 / x.sin), ("cot", fun x => 1 / x.tan),
    ("asin", Float.asin), ("acos", Float.acos), ("atan", Float.atan),
    ("asec", fun x => (1 / x).acos), ("acsc", fun x => (1 / x).asin),
    ("acot", fun x => (1 / x).atan),
    ("sinh", Float.sinh), ("cosh", Float.cosh), ("tanh", Float.tanh),
    ("sech", fun x => 1 / x.cosh), ("csch", fun x => 1 / x.sinh), ("coth", fun x => 1 / x.tanh),
    ("log", Float.log10), ("ln", Float.log), ("exp", Float.exp),
    ("toDegrees", fun x => x * 57.2957795130823208767981548141051703),
    ("toRadians", fun x => x * (3.141592653589793 / 180))]

/-- The sign of a number. -/
def signum (x : Float) : Int := if x == 0 then 0 else if x < 0 then -1 else 1

/-- A number rounded to an integer; none for infinities. -/
def rounded? (direction : Binary64.Direction) (x : Float) : Option Int :=
  (Binary64.decode? x).map (Binary64.Dyadic.toInteger direction)

/-- The functions whose results are integers; there is none for an infinity that stays one. -/
def integerFunctions : List (String × (Float → Option Int)) :=
  [("floor", rounded? .down), ("ceil", rounded? .up), ("signum", fun x => some (signum x))]

/-- An integer as the result of a function; NULL when it is out of range. -/
def integerResult (n : Option Int) : Operand :=
  match n.bind Integer.ofInt? with
  | some n => some (.integer n)
  | none => .null .integer

/-- The magnitude of an operand; that of an integer is one, and NULL when it is out of range. -/
def absolute (i : Invocation) : Operand :=
  match i.scalar? 0 with
  | some (.integer n) => integerResult (some n.toInt.natAbs)
  | _ =>
    match i.number? 0 with
    | some x => .finite x.abs
    | none => .null .float

/-- The angle of a point, given by its second and first coordinates. -/
def atan2 (i : Invocation) : Operand :=
  match i.number? 0, i.number? 1 with
  | some y, some x => .finite (y.atan2 x)
  | _, _ => .null .float

/-- The function that the attribute `name` selects. -/
def mathOperator (i : Invocation) : Result Operand := do
  let name ← Attribute.required i.expression "name"
  if name = "atan2" then return atan2 i
  else if name = "abs" then return absolute i
  else if let some f := realFunctions.lookup name then
    match i.number? 0 with
    | some x => return .finite (f x)
    | none => return .null .float
  else if let some f := integerFunctions.lookup name then
    match i.number? 0 with
    | some x => return integerResult (f x)
    | none => return .null .integer
  else Attribute.invalid i.expression "name" (.unknownFunction name)

end ItemScoring.Function
