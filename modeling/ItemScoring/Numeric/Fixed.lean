import ItemScoring.Numeric.Binary64
/-!
# Decimal fixed-point numbers

A fixed-point number is a sign, a mantissa below `2 ^ 96` and a scale, and stands for
`mantissa / 10 ^ scale`. `Fixed.ofBinary?` finds the fixed-point number for a binary one: it trades
the powers of two of the binary exponent for powers of ten while the mantissa fits, and then drops
surplus digits, so that a literal such as `2.675` gets the digits it is written with. Rounding to
decimal places or to significant figures takes a half away from zero. Zero has no sign, so a
negative number that is rounded to zero loses its own. These are the algorithms of the built-in
arithmetic with decimals; what is known of any other is less.
-/

set_option autoImplicit false

namespace ItemScoring

/-- The number `mantissa / 10 ^ scale`, negated when `negative`. -/
structure Fixed where
  /-- Whether the sign is negative. -/
  negative : Bool
  /-- The digits. -/
  mantissa : Nat
  /-- The number of digits after the point. -/
  scale : Nat
  deriving DecidableEq, Repr

namespace Fixed

/-- Every mantissa is below this bound, `2 ^ 96`. -/
def mantissaBound : Nat := 79228162514264337593543950336

/-- The number with the given parts; zero is never negative. -/
def ofParts (negative : Bool) (mantissa scale : Nat) : Fixed :=
  ⟨negative && mantissa != 0, mantissa, scale⟩

/-- Divide by `10 ^ places`; a half goes up. -/
def dropDigits (mantissa places : Nat) : Nat :=
  Binary64.Direction.nearestAway.round false mantissa (tenTo places)

/-- Remove `n` halvings: halve an even mantissa, multiply an odd one by five instead while it fits,
and lose its last bit when it does not. The second part counts the powers of ten. -/
def removeHalvings : Nat → Nat → Int → Nat × Int
  | 0, m, tens => (m, tens)
  | n + 1, m, tens =>
    if m % 2 = 0 then removeHalvings n (m / 2) (tens + 1)
    else if m * 5 < mantissaBound then removeHalvings n (m * 5) tens
    else removeHalvings n (m / 2) (tens + 1)

/-- Remove `n` divisions by five: double the mantissa while it fits, else divide it by five. None
when too many powers of ten are left. -/
def removeFifths : Nat → Nat → Int → Option (Nat × Int)
  | 0, m, tens => some (m, tens)
  | n + 1, m, tens =>
    if m * 2 < mantissaBound then removeFifths n (m * 2) (tens - 1)
    else if tens * 2 > (n + 1 : Nat) then none
    else removeFifths n (m / 5) tens

/-- Multiply by `n` tens; none when the mantissa does not fit. -/
def absorbTens : Nat → Nat → Option Nat
  | 0, m => some m
  | n + 1, m => if m * 10 < mantissaBound then absorbTens n (m * 10) else none

/-- Drop up to `n` digits one at a time, each rounded half up. A mantissa that gets to zero in a
step needs no scale. The result is the mantissa and the number of digits that were not dropped. -/
def shedDigits : Nat → Nat → Nat → Nat × Nat
  | 0, m, kept => (m, kept)
  | n + 1, m, kept =>
    if m / 10 = 0 then (0, 0)
    else shedDigits n (if 5 ≤ m % 10 then m / 10 + 1 else m / 10) kept

/-- Drop digits after the point, each rounded half up, while the mantissa has more bits than a
binary fraction can tell apart. -/
def shedExcess : Nat → Nat → Nat × Nat
  | 0, m => (m, 0)
  | scale + 1, m =>
    if Binary64.leastNormal ≤ m then shedExcess scale (if 5 ≤ m % 10 then m / 10 + 1 else m / 10)
    else (m, scale + 1)

/-- Drop the zeros that end the digits after the point. -/
def shedZeros : Nat → Nat → Nat × Nat
  | 0, m => (m, 0)
  | scale + 1, m => if m % 10 = 0 then shedZeros scale (m / 10) else (m, scale + 1)

/-- The mantissa and the power of ten for `mantissa · 2 ^ exponent`, before digits are dropped. -/
def tradePowers? (mantissa : Nat) (exponent : Int) : Option (Nat × Int) :=
  if exponent ≤ 0 then some (removeHalvings (-exponent).toNat mantissa exponent)
  else removeFifths exponent.toNat mantissa exponent

/-- The fixed-point number for a binary one; none when it is out of range. -/
def ofBinary? (d : Binary64.Dyadic) : Option Fixed := do
  let (m, tens) ← tradePowers? d.mantissa d.exponent
  let m ← absorbTens tens.toNat m
  let (m, scale) := shedDigits ((-tens).toNat - 28) m (min (-tens).toNat 28)
  let (m, scale) := shedExcess scale m
  let (m, scale) := shedZeros scale m
  return ofParts d.negative m scale

/-- Round to at most `places` digits after the point. -/
def roundPlaces (places : Nat) (d : Fixed) : Fixed :=
  if d.scale ≤ places then d
  else ofParts d.negative (dropDigits d.mantissa (d.scale - places)) places

/-- Write up to `n` more digits after the point while the mantissa fits. -/
def padDigits : Nat → Fixed → Fixed
  | 0, d => d
  | n + 1, d =>
    if d.mantissa * 10 < mantissaBound then
      padDigits n { d with mantissa := d.mantissa * 10, scale := d.scale + 1 }
    else d

/-- Round to `figures` significant figures; none when the result is out of range. -/
def roundFigures? (figures : Nat) (d : Fixed) : Option Fixed :=
  if d.mantissa = 0 then some ⟨false, 0, 0⟩
  else
    let count := (Nat.toDigits 10 d.mantissa).length
    if count ≤ figures then some (padDigits (figures - count) d)
    else
      let surplus := count - figures
      if surplus ≤ d.scale then some (roundPlaces (d.scale - surplus) d)
      else
        let m := dropDigits d.mantissa surplus * tenTo (surplus - d.scale)
        if m < mantissaBound then some (ofParts d.negative m 0) else none

/-- The binary number: a whole number is converted at once, and any other is put together from its
whole part and its fraction and then rounded at its scale in binary arithmetic. -/
def toBinary (d : Fixed) : Float :=
  if d.scale = 0 then Binary64.ofInteger (Binary64.withSign d.negative d.mantissa)
  else
    let whole := Binary64.ofInteger (d.mantissa / tenTo d.scale : Nat)
    let fraction :=
      Binary64.ofInteger (d.mantissa % tenTo d.scale : Nat)
        / Binary64.ofInteger (tenTo d.scale)
    let magnitude :=
      if fraction == 0 then whole
      else
        let unit := Binary64.power 10 d.scale
        Binary64.roundHalfAway ((whole + fraction) * unit) / unit
    if d.negative then -magnitude else magnitude

end Fixed

end ItemScoring
