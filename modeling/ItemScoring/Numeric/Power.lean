/-!
# Powers of two and of ten

Binary numbers are scaled by powers of two and decimal ones by powers of ten. The powers are taken
of natural numbers, so every computation with them is exact.
-/

set_option autoImplicit false

namespace ItemScoring

/-- The power of two with the given exponent. -/
def twoTo (n : Nat) : Nat := Nat.pow 2 n

/-- The power of ten with the given exponent. -/
def tenTo (n : Nat) : Nat := Nat.pow 10 n

end ItemScoring
