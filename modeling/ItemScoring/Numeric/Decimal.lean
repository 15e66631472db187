import ItemScoring.Numeric.Fixed
/-!
# Arithmetic with decimals

A number is rounded to a precision by a library of decimal arithmetic. What the library offers is
four functions on decimals of a sign, a mantissa and a scale; `DecimalArithmetic.builtIn` is one
such library.
-/

set_option autoImplicit false

namespace ItemScoring

/-- What a library of decimal arithmetic offers. -/
structure DecimalArithmetic where
  /-- The decimal for a binary number; none when the number is out of range. -/
  ofFloat? : Float → Option Fixed
  /-- Round to a number of digits after the point, a half away from zero. -/
  roundPlaces : Nat → Fixed → Fixed
  /-- Round to a number of significant figures, a half away from zero; none when the result is out
  of range. -/
  roundFigures? : Nat → Fixed → Option Fixed
  /-- The binary number for a decimal, when there is one. -/
  toFloat? : Fixed → Option Float

/-- Arithmetic with the algorithms of `Fixed`, on mantissas of 96 bits. -/
def DecimalArithmetic.builtIn : DecimalArithmetic where
  ofFloat? x := (Binary64.decode? x).bind Fixed.ofBinary?
  roundPlaces := Fixed.roundPlaces
  roundFigures? := Fixed.roundFigures?
  toFloat? d := (some d.toBinary).filter Float.isFinite

end ItemScoring
