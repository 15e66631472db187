import ItemScoring.Numeric.Power
/-!
# Binary floating-point numbers

A finite binary64 number is exactly `mantissa · 2 ^ exponent`, with a sign. `decode?` reads these
parts off the bit pattern, and every rounding to an integer is done on them in exact integer
arithmetic. The module also fixes the minimum and maximum that ignore an operand that is no
number, and powers by repeated squaring.

Arithmetic has one value for what is no number, and its bit patterns are many: some have the sign
bit set. Where numbers are kept and sorted they are kept as patterns (`Binary64`), and the total
order is an order of patterns.
-/

set_option autoImplicit false

namespace ItemScoring

/-- A binary64 number as its bit pattern. -/
structure Binary64 where
  /-- The sign bit, the exponent and the fraction, from the highest bit down. -/
  bits : UInt64
  deriving DecidableEq

namespace Binary64

/-- The number that a pattern stands for; all patterns of what is no number stand for one. -/
def toFloat (b : Binary64) : Float := Float.ofBits b.bits

/-- The pattern of a number. What is no number gets the pattern without a sign. -/
def ofFloat (x : Float) : Binary64 := ⟨x.toBits⟩

/-- The exact value of a finite number: `mantissa · 2 ^ exponent`, negated when `negative`. -/
structure Dyadic where
  /-- Whether the sign bit is set; zero has a sign too. -/
  negative : Bool
  /-- The digits of the magnitude. -/
  mantissa : Nat
  /-- The power of two that scales the mantissa. -/
  exponent : Int
  deriving DecidableEq, Repr

/-- The least mantissa of a normal number, `2 ^ 52`. -/
def leastNormal : Nat := 4503599627370496

/-- The number of codes of an exponent, `2 ^ 11`. -/
def exponentCodes : Nat := 2048

/-- The sign bit, `2 ^ 63`. -/
def signBit : Nat := 9223372036854775808

/-- The parts of a finite number; none for infinities and for what is no number. -/
def decode? (x : Float) : Option Dyadic :=
  let bits : Nat := x.toBits.toNat
  let fraction : Nat := bits % leastNormal
  let biased : Nat := bits / leastNormal % exponentCodes
  if biased = 2047 then none
  else
    some
      { negative := bits / signBit = 1
        mantissa := if biased = 0 then fraction else fraction + leastNormal
        exponent := (if biased = 0 then 1 else (biased : Int)) - 1075 }

/-- The ways to choose an integer near a number. -/
inductive Direction where
  /-- Drop the fraction. -/
  | towardZero
  /-- The greatest integer that is not above. -/
  | down
  /-- The least integer that is not below. -/
  | up
  /-- The nearest integer; a half goes away from zero. -/
  | nearestAway
  /-- The nearest integer; a half goes to the even neighbour. -/
  | nearestEven
  deriving DecidableEq, Repr

/-- Round the magnitude `numerator / denominator` of a number with the given sign. -/
def Direction.round (direction : Direction) (negative : Bool) (numerator denominator : Nat) : Nat :=
  let quotient := numerator / denominator
  let remainder := numerator % denominator
  let away : Bool :=
    match direction with
    | .towardZero => false
    | .down => negative && remainder != 0
    | .up => !negative && remainder != 0
    | .nearestAway => denominator ≤ 2 * remainder
    | .nearestEven =>
      denominator < 2 * remainder || (2 * remainder == denominator && quotient % 2 == 1)
  if away then quotient + 1 else quotient

/-- Give a magnitude its sign. -/
def withSign (negative : Bool) (magnitude : Nat) : Int :=
  if negative then -(magnitude : Int) else magnitude

/-- The integer that a direction picks for an exact value multiplied by `scale`. -/
def Dyadic.scaled (direction : Direction) (scale : Nat) (d : Dyadic) : Int :=
  withSign d.negative
    (direction.round d.negative (d.mantissa * scale * twoTo d.exponent.toNat)
      (twoTo (-d.exponent).toNat))

/-- The integer that a direction picks for an exact value. -/
def Dyadic.toInteger (direction : Direction) (d : Dyadic) : Int :=
  d.scaled direction 1

/-- The nearest binary64 number; ties go to the even mantissa. -/
def ofInteger (n : Int) : Float := Float.ofInt n

/-- The nearest integral number; a half goes away from zero, and a result of zero keeps the sign. -/
def roundHalfAway (x : Float) : Float :=
  match decode? x with
  | none => x
  | some d =>
    let n := d.toInteger .nearestAway
    if n = 0 then (if d.negative then -0.0 else 0.0) else ofInteger n

/-- The lesser operand; an operand that is no number is ignored. -/
def least (a b : Float) : Float :=
  if a.isNaN then b else if b < a then b else a

/-- The greater operand; an operand that is no number is ignored. -/
def greatest (a b : Float) : Float :=
  if a.isNaN then b else if a < b then b else a

/-- The place of a pattern in the total order: patterns with the sign bit by falling magnitude, then
those without it by rising magnitude, so `-0` is below `+0`. What is no number stands above all
numbers, or below all of them when its sign bit is set. -/
def orderKey (b : Binary64) : Int :=
  let bits : Nat := b.bits.toNat
  if bits < signBit then bits else (signBit : Int) - 1 - bits

/-- Compare by the total order. -/
def order (a b : Binary64) : Ordering := compare (orderKey a) (orderKey b)

/-- One round per bit of the exponent, lowest bit first. -/
def powerLoop : Nat → Nat → Float → Float → Float
  | 0, _, _, product => product
  | rounds + 1, n, x, product =>
    let product := if n % 2 = 1 then product * x else product
    if n / 2 = 0 then product else powerLoop rounds (n / 2) (x * x) product

/-- An integral power by repeated squaring; a negative exponent inverts the power. -/
def power (x : Float) (n : Int) : Float :=
  let magnitude := powerLoop (n.natAbs + 1) n.natAbs x 1
  if n < 0 then 1 / magnitude else magnitude

end Binary64

end ItemScoring
