import ItemScoring.Engine
/-!
# Outcomes

What a rule stores in an outcome: the value of an expression in the declared shape, or what the
table of the outcome turns the value of an expression into. The expression stands at a place among
those of all rules.
-/

set_option autoImplicit false

namespace ItemScoring

namespace Variable

/-- Whether values of a base type are taken as they are; integers are taken where numbers are. -/
def takes (v : Variable) (b : Option BaseType) : Bool :=
  v.baseType == b || (v.baseType == some .float && b == some .integer)

/-- Whether a value has the shape of a variable. -/
def accepts (v : Variable) (w : Value) : Bool :=
  v.cardinality == w.cardinality && v.takes w.baseType

/-- Scalars as a payload of a cardinality; a single value keeps the first. -/
def reshape (c : Cardinality) (ss : List Scalar) : Payload :=
  if c = .single then
    match ss with
    | [] => .null
    | s :: _ => .single s
  else .ofScalars ss

/-- A payload with the cardinality and base type of a variable. Records, and payloads for variables
without a base type, stay as they are. -/
def fit (v : Variable) (c : Cardinality) (p : Payload) : Payload :=
  if v.cardinality = .record ∨ c = .record then p
  else
    match v.baseType with
    | none => p
    | some b => reshape v.cardinality (p.scalars.map (Scalar.recast b))

/-- Fit a value to the shape of a variable. Unless assignments are strict, the value may have any
shape. -/
def coerce (v : Variable) (strict : Bool) (w : Value) : Result Payload :=
  if w.isNull then .ok .null
  else if strict && !v.accepts w then
    .error (.outcomeMismatch v.identifier v.cardinality v.baseType w.cardinality w.baseType)
  else .ok (v.fit w.cardinality w.payload)

/-- The payload of a scalar from the table of a variable; there may be none. -/
def ofTarget (v : Variable) : Option Scalar → Payload
  | none => .null
  | some s => .single (v.baseType.elim s fun b => Scalar.recast b s)

end Variable

/-- The variable that a rule assigns to, which has to be declared. -/
def Session.outcome (s : Session) (identifier : String) : Result Variable :=
  match s.find? identifier with
  | some v => .ok v
  | none => .error (.missingVariable identifier)

namespace Engine

/-- The payload that an assignment stores. The outcome has to be declared before the expression is
evaluated. -/
def assigned (g : Engine) (place : Nat) (identifier : String) (e : Expression) (s : Session) :
    Result Payload := do
  let v ← s.outcome identifier
  match ← g.evaluate place e s with
  | none => return .null
  | some w => v.coerce g.config.strictOutcomeTypes w

/-- The number that is looked up in a table, when a value is one. -/
def sourceNumber (o : Operand) : Option Float :=
  ((o.bind Value.single?).bind Scalar.number?).filter fun x => !x.isNaN

/-- The payload that a lookup stores. The outcome has to have a table before the expression is
evaluated. -/
def lookedUp (g : Engine) (place : Nat) (identifier : String) (e : Expression) (s : Session) :
    Result Payload := do
  let v ← s.outcome identifier
  match v.lookupTable with
  | none => .error (.type (.noTable identifier))
  | some table =>
    let o ← g.evaluate place e s
    return v.ofTarget (table.lookup (sourceNumber o))

/-- Whether a condition holds. NULL counts as false, and anything but a single truth value is an
error. -/
def holds (g : Engine) (place : Nat) (e : Expression) (s : Session) : Result Bool := do
  let o ← g.evaluate place e s
  if o.isNull then return false
  else
    match o.bind Value.single? with
    | some (.boolean b) => return b
    | _ => .error (.type (.condition e.tag))

end Engine

end ItemScoring
