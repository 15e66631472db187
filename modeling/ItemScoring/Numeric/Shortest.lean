import ItemScoring.Numeric.Binary64
/-!
# Shortest decimal digits

The shortest digits of a finite number other than zero are the fewest decimal digits that a
correctly rounding reader takes back to that number, and among those the ones nearest to it. The
reals that read back form the interval between the midpoints to the two neighbours; the midpoints
belong to it exactly when the mantissa is even. `shortest` tries decimal grids from coarse to fine
and tests the two grid points around the number, all in integer arithmetic.
-/

set_option autoImplicit false

namespace ItemScoring.Binary64

/-- The number `significand · 10 ^ exponent`. -/
structure Decimal where
  /-- The digits, read as a number. -/
  significand : Nat
  /-- The power of ten that scales the digits. -/
  exponent : Int
  deriving DecidableEq, Repr

/-- Which of two equally near decimals is chosen. -/
inductive Tie where
  /-- The greater one. -/
  | up
  /-- The one whose last digit is even. -/
  | even
  deriving DecidableEq, Repr

/-- The reals that round to a number, in units of a quarter of its last mantissa bit: the number
is `4 · mantissa` units, and `closed` says whether the end points belong to the interval. -/
structure Interval where
  /-- The lower end. -/
  low : Nat
  /-- The number itself. -/
  middle : Nat
  /-- The upper end. -/
  high : Nat
  /-- Whether the ends round to the number as well. -/
  closed : Bool
  /-- A unit is `2 ^ exponent`. -/
  exponent : Int
  deriving DecidableEq, Repr

/-- The interval around a mantissa; the lower neighbour of a power of two is only half as far. -/
def Interval.around (d : Dyadic) : Interval :=
  let middle := 4 * d.mantissa
  { low := if d.mantissa = leastNormal ∧ -1074 < d.exponent then middle - 1 else middle - 2
    middle := middle
    high := middle + 2
    closed := d.mantissa % 2 == 0
    exponent := d.exponent - 2 }

/-- Units of the interval per step of a decimal grid, as a fraction: one step of `10 ^ grid` is
`numerator / denominator` units. -/
def Interval.step (i : Interval) (grid : Int) : Nat × Nat :=
  (tenTo grid.toNat * twoTo (-i.exponent).toNat, tenTo (-grid).toNat * twoTo i.exponent.toNat)

/-- Whether the grid point `n` belongs to the interval. -/
def Interval.holds (i : Interval) (step : Nat × Nat) (n : Nat) : Bool :=
  let point := n * step.1
  if i.closed then i.low * step.2 ≤ point && point ≤ i.high * step.2
  else i.low * step.2 < point && point < i.high * step.2

/-- Whether the grid point above is chosen, when the number lies `rest` past the point `below` on a
grid of the given step. -/
def Tie.choosesUpper (tie : Tie) (below rest step : Nat) : Bool :=
  step < 2 * rest
    || (2 * rest == step && (match tie with | .up => true | .even => below % 2 == 1))

/-- The grid point of the interval that is nearest to its middle, when there is one. -/
def Interval.nearest? (tie : Tie) (i : Interval) (grid : Int) : Option Decimal :=
  let step := i.step grid
  let below := i.middle * step.2 / step.1
  let rest := i.middle * step.2 % step.1
  match i.holds step below, i.holds step (below + 1) with
  | false, false => none
  | true, false => some ⟨below, grid⟩
  | false, true => some ⟨below + 1, grid⟩
  | true, true =>
    some ⟨if tie.choosesUpper below rest step.1 then below + 1 else below, grid⟩

/-- Try grids from coarse to fine; the last one is taken without a further try. -/
def Interval.search (tie : Tie) (i : Interval) : Nat → Int → Decimal
  | 0, grid => (i.nearest? tie grid).getD ⟨0, grid⟩
  | tries + 1, grid =>
    match i.nearest? tie grid with
    | some found => found
    | none => i.search tie tries (grid - 1)

/-- The number of decimal digits. -/
def digitCount (n : Nat) : Nat := (Nat.toDigits 10 n).length

/-- The decimal exponent of the first digit of a positive fraction. -/
def leadingExponent (numerator denominator : Nat) : Int :=
  let guess : Int := digitCount numerator - digitCount denominator
  if denominator * tenTo guess.toNat ≤ numerator * tenTo (-guess).toNat then guess else guess - 1

/-- The shortest decimal that reads back as the given number, which is not zero. A single digit
rounded up to ten is written as one. Seventeen digits always suffice. -/
def shortest (tie : Tie) (d : Dyadic) : Decimal :=
  let first := leadingExponent (d.mantissa * twoTo d.exponent.toNat) (twoTo (-d.exponent).toNat)
  let found := (Interval.around d).search tie 17 first
  if found.significand = 10 then ⟨1, found.exponent + 1⟩ else found

end ItemScoring.Binary64
