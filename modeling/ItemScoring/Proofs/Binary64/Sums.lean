import Mathlib
import ItemScoring.Proofs.Binary64.Operations

/-!
# Sums without rounding

Floating-point sums depend on the order of their terms. They do not if nothing has to be rounded:
the terms are multiples of one power of two, and the factors have no more than 53 digits even when
they are added up. Then a running total that starts at zero is the exact sum of the terms so far,
and it is not the negative zero, so the exact sum determines it (`foldl_add_of_perm`).
-/

set_option autoImplicit false

namespace ItemScoring.Binary64

open Float.Model UnpackedFloat

/-- A finite number that is a multiple of a power of two. -/
structure IsMultiple (k n : Int) (x : Float) : Prop where
  finite : x.isFinite = true
  value_eq : value x = n * 2 ^ k

/-- A running total: a multiple of a power of two, and not the negative zero. -/
structure IsTotal (k n : Int) (x : Float) : Prop extends IsMultiple k n x where
  unsigned : x.toModel.unpack ≠ .zero .negative

theorem rational_finite_ne_zero (s : Sign) {m : Nat} (e : Int) (positive : 0 < m) :
    rational (.finite s m e positive) ≠ 0 := by
  cases s with
  | positive => exact (rational_positive_pos positive).ne'
  | negative => exact (rational_negative_neg positive).ne

/-- A sum that is zero is the positive zero, unless both terms are the negative one. -/
theorem add_eq_zero_positive {u v : UnpackedFloat} (first : IsCanonical u) (second : IsCanonical v)
    (unsigned : u ≠ .zero .negative) (sum : rational u + rational v = 0) :
    UnpackedFloat.add Format.binary64 u v = .zero .positive := by
  cases first with
  | zero s =>
      cases s with
      | negative => exact absurd rfl unsigned
      | positive =>
          cases second with
          | zero t => cases t <;> rfl
          | finite t pos normalized =>
              rw [rational_zero, zero_add] at sum
              exact absurd sum (rational_finite_ne_zero t _ pos)
  | @finite s m e pos normalized =>
      cases second with
      | zero t =>
          rw [rational_zero, add_zero] at sum
          exact absurd sum (rational_finite_ne_zero s _ pos)
      | @finite t n f pos' normalized' =>
          have mantissa : s.apply (m <<< (e - min e f).toNat : Nat) +
              t.apply (n <<< (f - min e f).toNat : Nat) = 0 := by
            have power : (2 : ℚ) ^ min e f ≠ 0 := by positivity
            rw [rational, rational, ← apply_shiftLeft s m (min_le_left e f),
              ← apply_shiftLeft t n (min_le_right e f), ← add_mul] at sum
            exact_mod_cast (mul_eq_zero.1 sum).resolve_right power
          change UnpackedFloat.normalize _ (s.apply _ + t.apply _) _ _ = _
          rw [mantissa]
          rfl

section Totals

variable {k : Int} (low : -1074 ≤ k) (high : k ≤ 970)
include low high

/-- Adding a multiple is exact when no digits are lost. -/
theorem IsTotal.add {m n : Int} {x y : Float} (first : IsTotal k m x) (second : IsMultiple k n y)
    (small : (m + n).natAbs ≤ 2 * leastNormal) : IsTotal k (m + n) (x + y) := by
  have exact : value x + value y = (m + n : Int) * 2 ^ k := by
    rw [first.value_eq, second.value_eq]
    push_cast
    ring
  obtain ⟨z, finite, same⟩ := exists_value small low high
  have rounds := rounds_add first.finite second.finite
  obtain ⟨finite', value_eq⟩ := rounds.value_eq finite (same.trans exact.symm)
  refine ⟨⟨finite', value_eq.trans exact⟩, fun negative => ?_⟩
  -- If the sum were the negative zero, both terms would be.
  have zero : value (x + y) = 0 := congrArg rational negative
  have sum : (x + y).toModel.unpack = (Float.Model.pack (.zero .positive)).unpack :=
    congrArg (fun u => (Float.Model.pack u).unpack) (add_eq_zero_positive
      (isCanonical_unpack first.finite) (isCanonical_unpack second.finite) first.unsigned
      (value_eq.symm.trans zero))
  rw [negative] at sum
  cases sum

/-- A running total stays exact. -/
theorem IsTotal.foldl {ns : List Int} {xs : List Float} (terms : List.Forall₂ (IsMultiple k) ns xs)
    {m : Int} {x : Float} (first : IsTotal k m x)
    (small : m.natAbs + (ns.map Int.natAbs).sum ≤ 2 * leastNormal) :
    IsTotal k (m + ns.sum) (xs.foldl (· + ·) x) := by
  induction terms generalizing m x with
  | nil => simpa using first
  | @cons n y ns xs term _ ih =>
      rw [List.map_cons, List.sum_cons] at small
      have next := first.add low high term (by omega)
      rw [List.sum_cons, ← add_assoc]
      exact ih next (by omega)

end Totals

/-- A running total is determined by its value. -/
theorem IsTotal.unique {k n : Int} {x y : Float} (first : IsTotal k n x) (second : IsTotal k n y) :
    x = y := by
  have unsigned : ∀ {z : Float}, z.toModel.unpack ≠ .zero .negative → (z == 0) = true → z = 0 := by
    intro z notNegative zero
    rcases beq_zero_iff.1 zero with rfl | rfl
    · rfl
    · exact absurd rfl notNegative
  have same : (x == y) = true := (beq_iff_value first.finite second.finite).2
    (first.value_eq.trans second.value_eq.symm)
  rcases eq_or_zero_of_beq same with equal | ⟨zero, zero'⟩
  · exact equal
  · rw [unsigned first.unsigned zero, unsigned second.unsigned zero']

/-- Terms that can be added up without rounding: they are multiples of one power of two, and the
factors have no more than 53 digits altogether. -/
def AddExactly (xs : List Float) : Prop :=
  ∃ k ns, -1074 ≤ k ∧ k ≤ 970 ∧ List.Forall₂ (IsMultiple k) ns xs ∧
    (ns.map Int.natAbs).sum ≤ 2 * leastNormal

theorem isTotal_zero (k : Int) : IsTotal k 0 0 := by
  refine ⟨⟨isFinite_zero, ?_⟩, nofun⟩
  rw [Int.cast_zero, zero_mul, value_zero]

/-- The order of terms that can be added up without rounding does not matter. -/
theorem foldl_add_of_perm {xs ys : List Float} (exact : AddExactly xs) (perm : ys.Perm xs) :
    ys.foldl (· + ·) 0 = xs.foldl (· + ·) 0 := by
  obtain ⟨k, ns, low, high, terms, small⟩ := exact
  obtain ⟨ms, terms', perm'⟩ := List.perm_comp_forall₂ perm terms.flip
  have first := (isTotal_zero k).foldl low high terms (by simpa using small)
  have second := (isTotal_zero k).foldl low high terms'.flip (by
    simpa [(perm'.map Int.natAbs).sum_eq] using small)
  rw [perm'.sum_eq] at second
  exact second.unique first

end ItemScoring.Binary64
