import ItemScoring.Numeric.Binary64
import ItemScoring.Numeric.Integer
/-!
# Durations

A duration is a signed number of nanoseconds. It is made from a number of seconds by rounding the
exact binary value to nanoseconds, and turned back into seconds by adding the whole seconds and the
rest, each converted for itself.
-/

set_option autoImplicit false

namespace ItemScoring

/-- A length of time; it may be negative. -/
structure Duration where
  /-- The length in nanoseconds. -/
  nanoseconds : Int
  deriving DecidableEq, Repr

namespace Duration

/-- The nanoseconds of a second. -/
def second : Nat := 1000000000

/-- The whole seconds, counted toward zero. -/
def wholeSeconds (d : Duration) : Int := d.nanoseconds.tdiv second

/-- The nanoseconds beyond the whole seconds, with the sign of the duration. -/
def subsecond (d : Duration) : Int := d.nanoseconds.tmod second

/-- The duration of a number of seconds, to the nearest nanosecond, a half going to the even one.
None for infinities, for what is no number and from `2 ^ 63` seconds on. -/
def ofSeconds? (x : Float) : Option Duration :=
  match Binary64.decode? x with
  | none => none
  | some d =>
    if (d.toInteger .towardZero).natAbs < Integer.bound then
      some ⟨d.scaled .nearestEven second⟩
    else none

/-- The length in seconds. -/
def toSeconds (d : Duration) : Float :=
  Binary64.ofInteger d.wholeSeconds + Binary64.ofInteger d.subsecond / 1e9

end Duration

end ItemScoring
