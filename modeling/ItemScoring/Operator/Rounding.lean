import ItemScoring.Operator.Basic
/-!
# Rounding

Numbers are rounded to integers or to a precision. An integer stays as it is, an infinity stays an
infinity, and what is no number becomes NULL.
-/

set_option autoImplicit false

namespace ItemScoring.Rounding

/-- The greatest count of figures. -/
def mostFigures : Int := 28

/-- What the figures of an expression count; significant figures are the default. -/
def roundingMode (e : Expression) : Result RoundingMode :=
  match e.attribute? "roundingMode" with
  | none => .ok .significantFigures
  | some name =>
    match RoundingMode.ofName? name with
    | some mode => .ok mode
    | none => Attribute.invalid e "roundingMode" (.unknownRounding name)

/-- The precision that an expression asks for. -/
def precision (e : Expression) (s : Session) : Result Precision := do
  let mode ← roundingMode e
  let read ← Attribute.integer e s "figures"
  let figures ← Attribute.require e "figures" read
  if figures.toInt < mode.fewest ∨ mostFigures < figures.toInt then
    Attribute.invalid e "figures" (.figures figures mode)
  else return { mode, figures := figures.toInt.toNat }

/-- A number rounded to an integer. -/
def integral (direction : Binary64.Direction) (i : Invocation) (x : Float) : Result Operand :=
  match Binary64.decode? x with
  | none => if x.isNaN then .ok (.null .integer) else .ok (some (.float x))
  | some d =>
    match Integer.ofInt? (d.toInteger direction) with
    | some n => .ok (some (.integer n))
    | none => i.overflow

/-- The operand rounded to an integer. -/
def toIntegral (direction : Binary64.Direction) (i : Invocation) : Result Operand :=
  match i.scalar? 0 with
  | some (.integer n) => .ok (some (.integer n))
  | some (.float x) => integral direction i x.toFloat
  | _ => .ok (.null .integer)

/-- The nearest integer, a half going away from zero. -/
def round : Invocation → Result Operand := toIntegral .nearestAway

/-- The integer without the fraction. -/
def truncate : Invocation → Result Operand := toIntegral .towardZero

/-- The operand rounded to a precision. -/
def roundTo (decimals : DecimalArithmetic) (i : Invocation) : Result Operand := do
  let precision ← precision i.expression i.session
  match i.number? 0 with
  | some x => return some (.float (precision.round decimals x))
  | none => return .null .float

end ItemScoring.Rounding
