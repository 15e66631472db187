import ItemScoring.Numeric.Decimal
/-!
# Rounding to a precision

A precision asks for significant figures or for decimal places. A number is rounded in decimal
fixed-point arithmetic, so that literals round the way they read; a number beyond the range of that
arithmetic is scaled by a power of ten, rounded and scaled back in binary arithmetic.
-/

set_option autoImplicit false

namespace ItemScoring

/-- What the figures of a precision count. -/
inductive RoundingMode where
  /-- Digits from the first one that is not zero. -/
  | significantFigures
  /-- Digits after the point. -/
  | decimalPlaces
  deriving DecidableEq, Repr

/-- The mode that an attribute names. -/
def RoundingMode.ofName? (name : String) : Option RoundingMode :=
  if name = "significantFigures" then some .significantFigures
  else if name = "decimalPlaces" then some .decimalPlaces
  else none

/-- The name of a mode in messages about its range. -/
def RoundingMode.title : RoundingMode → String
  | .significantFigures => "SignificantFigures"
  | .decimalPlaces => "DecimalPlaces"

/-- The least count of figures that makes sense. -/
def RoundingMode.fewest : RoundingMode → Int
  | .significantFigures => 1
  | .decimalPlaces => 0

/-- How a number is rounded: the mode and the count of figures. -/
structure Precision where
  /-- What is counted. -/
  mode : RoundingMode
  /-- How many are kept. -/
  figures : Nat
  deriving DecidableEq, Repr

namespace Precision

/-- Round a decimal; none when the result is out of range. -/
def roundFixed? (decimals : DecimalArithmetic) (p : Precision) (d : Fixed) : Option Fixed :=
  match p.mode with
  | .decimalPlaces => some (decimals.roundPlaces p.figures d)
  | .significantFigures => decimals.roundFigures? p.figures d

/-- Round in decimal arithmetic; none when the number or the result is out of its range. -/
def roundDecimal? (decimals : DecimalArithmetic) (p : Precision) (x : Float) : Option Float := do
  let d ← decimals.ofFloat? x
  let rounded ← roundFixed? decimals p d
  decimals.toFloat? rounded

/-- The power of ten that brings the last kept digit of a number to the unit place. -/
def scaleExponent (p : Precision) (x : Float) : Int :=
  match p.mode with
  | .decimalPlaces => p.figures
  | .significantFigures =>
    match Binary64.decode? x.abs.log10 with
    | some d => p.figures - 1 - d.toInteger .down
    | none => 0

/-- Round by scaling in binary arithmetic. -/
def roundBinary (p : Precision) (x : Float) : Float :=
  let scale := Binary64.power 10 (p.scaleExponent x)
  Binary64.roundHalfAway (x * scale) / scale

/-- Round to the precision, a half away from zero. Zeros, infinities and what is no number stay as
they are. -/
def round (decimals : DecimalArithmetic) (p : Precision) (x : Float) : Float :=
  if !x.isFinite || x == 0 then x else (roundDecimal? decimals p x).getD (p.roundBinary x)

end Precision

end ItemScoring
