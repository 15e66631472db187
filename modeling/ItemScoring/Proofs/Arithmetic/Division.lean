import Mathlib
import ItemScoring.Proofs.Arithmetic.Operands
import ItemScoring.Proofs.Integer

/-!
# Division rounded down

The quotient of two integers is first rounded toward zero, and is taken one less where something is
left over and the signs differ. So it is the quotient rounded down. All steps on the way are in
range, but for the quotient of the least integer and minus one, which no step goes beyond. What the
quotient leaves over has the sign of the divisor and a lesser magnitude, so it is in range as well;
but it is found by way of the product of the quotient and the divisor, which can be out of range.
-/

set_option autoImplicit false

namespace ItemScoring

/-! ## Quotients of unbounded integers -/

section Unbounded

variable {a b q : Int} (nonzero : b ≠ 0)
include nonzero

/-- A quotient is rounded down when what it leaves over has the sign of the divisor and a lesser
magnitude. -/
theorem floor_div_eq_iff :
    ⌊(a : ℚ) / b⌋ = q ↔
      (0 < b → 0 ≤ a - q * b ∧ a - q * b < b) ∧ (b < 0 → b < a - q * b ∧ a - q * b ≤ 0) := by
  have next : (q + 1) * b = q * b + b := by ring
  rw [Int.floor_eq_iff]
  rcases lt_or_gt_of_ne nonzero with negative | positive
  · have divisor : (b : ℚ) < 0 := Int.cast_lt_zero.2 negative
    rw [le_div_iff_of_neg divisor, div_lt_iff_of_neg divisor]
    norm_cast
    omega
  · have divisor : (0 : ℚ) < b := Int.cast_pos.2 positive
    rw [le_div_iff₀ divisor, div_lt_iff₀ divisor]
    norm_cast
    omega

/-- The quotient rounded down is one less than the one rounded toward zero where something is left
over and the signs differ. -/
theorem floor_div_eq_tdiv :
    ⌊(a : ℚ) / b⌋ =
      if a.tmod b ≠ 0 ∧ ¬(a < 0 ↔ b < 0) then a.tdiv b - 1 else a.tdiv b := by
  have whole : a - a.tdiv b * b = a.tmod b := by
    have := Int.tdiv_mul_add_tmod a b
    omega
  have below : (a.tdiv b - 1) * b = a.tdiv b * b - b := by ring
  have small : (a.tmod b).natAbs < b.natAbs := by
    rw [Int.natAbs_tmod]
    exact Nat.mod_lt _ (Int.natAbs_pos.2 nonzero)
  have nonneg : 0 ≤ a → 0 ≤ a.tmod b := Int.tmod_nonneg b
  have nonpos : 0 ≤ -a → 0 ≤ -a.tmod b := by
    rw [← Int.neg_tmod]
    exact Int.tmod_nonneg b
  rw [floor_div_eq_iff nonzero]
  split_ifs with differ
  · omega
  · omega

end Unbounded

namespace Integer

/-! ## Steps in range -/

variable {a b : Int64}

theorem div?_eq_some_iff {q : Int64} :
    div? a b = some q ↔ b ≠ 0 ∧ q.toInt = a.toInt.tdiv b.toInt := by
  unfold div?
  by_cases zero : b = 0
  · simp [zero]
  · rw [if_neg zero, ofInt?_eq_some_iff]
    simp [zero]

theorem toInt_ne_zero (nonzero : b ≠ 0) : b.toInt ≠ 0 :=
  fun value => nonzero (Int64.toInt_inj.1 value)

/-- A quotient by an integer other than a unit is far within the range. -/
theorem natAbs_tdiv_le (large : 2 ≤ b.toInt.natAbs) :
    2 * (a.toInt.tdiv b.toInt).natAbs ≤ bound := by
  have magnitude : a.toInt.natAbs ≤ bound := by
    have range := bounds a
    unfold least greatest at range
    omega
  rw [Int.natAbs_tdiv]
  calc 2 * (a.toInt.natAbs / b.toInt.natAbs)
      ≤ 2 * (a.toInt.natAbs / 2) := Nat.mul_le_mul_left 2 (Nat.div_le_div_left large (by decide))
    _ ≤ a.toInt.natAbs := Nat.mul_div_le _ 2
    _ ≤ bound := magnitude

/-- The only quotient that is out of range is that of the least integer and minus one. -/
theorem inRange_tdiv_iff (nonzero : b ≠ 0) :
    InRange (a.toInt.tdiv b.toInt) ↔ ¬(a = Int64.minValue ∧ b = -1) := by
  have range := bounds a
  have value := toInt_ne_zero nonzero
  have least : a = Int64.minValue ↔ a.toInt = -9223372036854775808 := Int64.toInt_inj.symm
  have minusOne : b = -1 ↔ b.toInt = -1 := Int64.toInt_inj.symm
  rw [least, minusOne]
  by_cases large : 2 ≤ b.toInt.natAbs
  · have small := natAbs_tdiv_le (a := a) large
    unfold InRange Integer.least greatest bound at *
    omega
  · obtain one | minus : b.toInt = 1 ∨ b.toInt = -1 := by omega
    · rw [one, Int.tdiv_one]
      unfold InRange
      omega
    · rw [minus, Int.tdiv_neg, Int.tdiv_one]
      unfold InRange Integer.least greatest bound at *
      omega

theorem div?_eq_none_iff : div? a b = none ↔ b = 0 ∨ a = Int64.minValue ∧ b = -1 := by
  unfold div?
  by_cases zero : b = 0
  · simp [zero]
  · rw [if_neg zero, ofInt?_eq_none_iff, inRange_tdiv_iff zero, not_not]
    simp [zero]

theorem inRange_tmod (nonzero : b ≠ 0) : InRange (a.toInt.tmod b.toInt) := by
  have small : (a.toInt.tmod b.toInt).natAbs < b.toInt.natAbs := by
    rw [Int.natAbs_tmod]
    exact Nat.mod_lt _ (Int.natAbs_pos.2 (toInt_ne_zero nonzero))
  have range := bounds b
  unfold InRange least greatest at *
  omega

/-- Each step on the way to the quotient rounded down has a result, and the result is exact. -/
structure DividesInRange (a b : Int64) : Prop where
  quotient : ∃ q : Int64, div? a b = some q ∧ q.toInt = a.toInt.tdiv b.toInt
  remainder : ∃ r : Int64, rem? a b = some r ∧ r.toInt = a.toInt.tmod b.toInt
  below : ∀ q : Int64, div? a b = some q → a.toInt.tmod b.toInt ≠ 0 →
    ∃ p : Int64, sub? q 1 = some p ∧ p.toInt = q.toInt - 1

theorem dividesInRange (nonzero : b ≠ 0) (fits : ¬(a = Int64.minValue ∧ b = -1)) :
    DividesInRange a b := by
  obtain ⟨q, quotient⟩ := exists_toInt_eq ((inRange_tdiv_iff nonzero).2 fits)
  obtain ⟨r, remainder⟩ := exists_toInt_eq (inRange_tmod (a := a) nonzero)
  have divided : div? a b = some q := div?_eq_some_iff.2 ⟨nonzero, quotient⟩
  refine ⟨⟨q, divided, quotient⟩, ⟨r, ?_, remainder⟩, ?_⟩
  · rw [rem?, divided, ofInt?_eq_some_iff.2 remainder]
    rfl
  · -- Units leave nothing over, so the quotient is far from the ends of the range.
    intro q' divided' leaves
    obtain rfl : q = q' := Option.some.inj (divided.symm.trans divided')
    have large : 2 ≤ b.toInt.natAbs := by
      have value := toInt_ne_zero nonzero
      by_contra unit
      have magnitude := Int.natAbs_tmod a.toInt b.toInt
      rw [show b.toInt.natAbs = 1 by omega, Nat.mod_one] at magnitude
      exact leaves (Int.natAbs_eq_zero.1 magnitude)
    have small := natAbs_tdiv_le (a := a) large
    have range : InRange (q.toInt - 1) := by
      unfold InRange least greatest bound at *
      omega
    obtain ⟨p, value⟩ := exists_toInt_eq range
    exact ⟨p, ofInt?_eq_some_iff.2 value, value⟩

end Integer

namespace Arithmetic

open Integer (InRange)

variable {a b : Int64}

/-! ## Quotients and remainders -/

/-- The quotient rounded down is found when it is in range. -/
theorem quotient?_eq (nonzero : b ≠ 0) :
    quotient? a b = Integer.ofInt? ⌊(a.toInt : ℚ) / b.toInt⌋ := by
  have value := Integer.toInt_ne_zero nonzero
  by_cases fits : a = Int64.minValue ∧ b = -1
  · obtain ⟨rfl, rfl⟩ := fits
    have beyond : ⌊(Int64.minValue.toInt : ℚ) / Int64.toInt (-1)⌋ = 9223372036854775808 :=
      (floor_div_eq_iff value).2 (by decide)
    rw [beyond]
    rfl
  · obtain ⟨⟨q, divided, quotient⟩, ⟨r, rest, remainder⟩, -⟩ :=
      Integer.dividesInRange nonzero fits
    have leaves : r ≠ 0 ↔ a.toInt.tmod b.toInt ≠ 0 := by
      rw [← remainder]
      exact not_congr Int64.toInt_inj.symm
    unfold quotient?
    rw [divided, rest, floor_div_eq_tdiv value, ← quotient]
    simp only [Option.bind_eq_bind, Option.bind_some, leaves]
    split_ifs with differ
    · rfl
    · exact (Integer.ofInt?_toInt q).symm

/-- The quotient rounded down is out of range for the least integer and minus one only. -/
theorem inRange_floor_div_iff (nonzero : b ≠ 0) :
    InRange ⌊(a.toInt : ℚ) / b.toInt⌋ ↔ ¬(a = Int64.minValue ∧ b = -1) := by
  constructor
  · rintro range ⟨rfl, rfl⟩
    have none : quotient? Int64.minValue (-1) = none := rfl
    rw [quotient?_eq nonzero, Integer.ofInt?_eq_none_iff] at none
    exact none range
  · intro fits
    obtain ⟨⟨q, divided, quotient⟩, -, below⟩ := Integer.dividesInRange nonzero fits
    rw [floor_div_eq_tdiv (Integer.toInt_ne_zero nonzero), ← quotient]
    split_ifs with differ
    · obtain ⟨p, -, value⟩ := below q divided differ.1
      rw [← value]
      exact Integer.inRange_toInt p
    · exact Integer.inRange_toInt q

/-- What the quotient rounded down leaves over is found when the quotient and its product with the
divisor are in range. -/
theorem remainder?_eq (nonzero : b ≠ 0) :
    remainder? a b =
      if InRange ⌊(a.toInt : ℚ) / b.toInt⌋ ∧ InRange (⌊(a.toInt : ℚ) / b.toInt⌋ * b.toInt) then
        Integer.ofInt? (a.toInt - ⌊(a.toInt : ℚ) / b.toInt⌋ * b.toInt)
      else none := by
  unfold remainder? Integer.mul? Integer.sub?
  rw [quotient?_eq nonzero]
  generalize ⌊(a.toInt : ℚ) / b.toInt⌋ = floor
  by_cases range : InRange floor
  · obtain ⟨q, rfl⟩ := Integer.exists_toInt_eq range
    rw [Integer.ofInt?_toInt]
    simp only [Option.bind_eq_bind, Option.bind_some]
    by_cases product : InRange (q.toInt * b.toInt)
    · obtain ⟨p, value⟩ := Integer.exists_toInt_eq product
      rw [if_pos ⟨range, product⟩, ← value, Integer.ofInt?_toInt, Option.bind_some]
    · rw [if_neg fun both => product both.2, Integer.ofInt?_eq_none_iff.2 product, Option.bind_none]
  · rw [if_neg fun both => range both.1, Integer.ofInt?_eq_none_iff.2 range]
    rfl

/-- What the quotient rounded down leaves over is in range. -/
theorem inRange_sub_floor (nonzero : b ≠ 0) :
    InRange (a.toInt - ⌊(a.toInt : ℚ) / b.toInt⌋ * b.toInt) := by
  have value := Integer.toInt_ne_zero nonzero
  have range := Integer.bounds b
  obtain ⟨positive, negative⟩ := (floor_div_eq_iff value).1 (rfl : ⌊(a.toInt : ℚ) / b.toInt⌋ = _)
  unfold InRange Integer.least Integer.greatest at *
  omega

/-! ## The operators -/

theorem onIntegerPair_withIntegers (result : Int64 → Int64 → Option Int64) (i : Invocation)
    (a b : Int64) :
    onIntegerPair result (i.withIntegers [a, b]) =
      if b = 0 then .ok (.null .integer)
      else match result a b with
        | some n => .ok (some (.integer n))
        | none => .error (.overflow i.tag) := rfl

theorem toInt_of_integerDivide {i : Invocation} {q : Int64} (nonzero : b ≠ 0)
    (h : integerDivide (i.withIntegers [a, b]) = .ok (some (.integer q))) :
    q.toInt = ⌊(a.toInt : ℚ) / b.toInt⌋ := by
  rw [integerDivide, onIntegerPair_withIntegers, if_neg nonzero, quotient?_eq nonzero] at h
  cases found : Integer.ofInt? ⌊(a.toInt : ℚ) / b.toInt⌋ with
  | none =>
      rw [found] at h
      cases h
  | some n =>
      rw [found] at h
      cases h
      exact Integer.ofInt?_eq_some_iff.1 found

/-- Division by zero gives NULL, and the quotient of the least integer and minus one is out of
range. In all other cases the first step succeeds, so do the steps after it, and the quotient is
rounded down. -/
theorem integerDivide_floor (i : Invocation) (a b : Int64) :
    (b = 0 → integerDivide (i.withIntegers [a, b]) = .ok (.null .integer)) ∧
    (integerDivide (i.withIntegers [a, b]) = .error (.overflow i.tag) ↔
      a = Int64.minValue ∧ b = -1) ∧
    (Integer.div? a b = none ↔ b = 0 ∨ a = Int64.minValue ∧ b = -1) ∧
    (b ≠ 0 → ¬(a = Int64.minValue ∧ b = -1) →
      (∃ q : Int64, q.toInt = ⌊(a.toInt : ℚ) / b.toInt⌋ ∧
        integerDivide (i.withIntegers [a, b]) = .ok (some (.integer q))) ∧
      Integer.DividesInRange a b) := by
  rw [integerDivide, onIntegerPair_withIntegers]
  by_cases zero : b = 0
  · subst zero
    simp [Integer.div?_eq_none_iff]
  · rw [if_neg zero, quotient?_eq zero]
    refine ⟨fun h => absurd h zero, ?_, Integer.div?_eq_none_iff,
      fun _ fits => ⟨?_, Integer.dividesInRange zero fits⟩⟩
    · have range := inRange_floor_div_iff (a := a) zero
      cases found : Integer.ofInt? ⌊(a.toInt : ℚ) / b.toInt⌋ with
      | none =>
          rw [Integer.ofInt?_eq_none_iff, range, not_not] at found
          exact iff_of_true rfl found
      | some q =>
          have inside : InRange ⌊(a.toInt : ℚ) / b.toInt⌋ := by
            rw [← Integer.ofInt?_eq_some_iff.1 found]
            exact Integer.inRange_toInt q
          exact iff_of_false nofun (range.1 inside)
    · obtain ⟨q, value⟩ := Integer.exists_toInt_eq ((inRange_floor_div_iff zero).2 fits)
      refine ⟨q, value, ?_⟩
      rw [Integer.ofInt?_eq_some_iff.2 value]

/-- The greatest and the least integer have both quotients rounded down: minus one and minus two. -/
theorem quotients_of_extremes :
    let divide (a b : Int64) : Result Operand :=
      integerDivide ((Invocation.bare "integerDivide").withIntegers [a, b])
    (∃ q : Int64, q.toInt = -1 ∧
      divide Int64.maxValue Int64.minValue = .ok (some (.integer q))) ∧
    (∃ q : Int64, q.toInt = -2 ∧
      divide Int64.minValue Int64.maxValue = .ok (some (.integer q))) := by
  intro divide
  have found (a b : Int64) (floor : Int) (nonzero : b ≠ 0)
      (value : ⌊(a.toInt : ℚ) / b.toInt⌋ = floor) (fits : ¬(a = Int64.minValue ∧ b = -1)) :
      ∃ q : Int64, q.toInt = floor ∧ divide a b = .ok (some (.integer q)) := by
    obtain ⟨-, -, -, others⟩ := integerDivide_floor (.bare "integerDivide") a b
    rw [← value]
    exact (others nonzero fits).1
  refine ⟨found _ _ (-1) (by decide) ?_ (by decide), found _ _ (-2) (by decide) ?_ (by decide)⟩
  · exact (floor_div_eq_iff (by decide)).2 (by decide)
  · exact (floor_div_eq_iff (by decide)).2 (by decide)

/-- What the quotient rounded down leaves over has the sign of the divisor and a lesser magnitude,
so it is in range. It is found exactly when the quotient and its product with the divisor are in
range, and an overflow is reported otherwise. -/
theorem integerModulus_exact_iff (i : Invocation) {a b : Int64} (nonzero : b ≠ 0) :
    let floor : Int := ⌊(a.toInt : ℚ) / b.toInt⌋
    let rest : Int := a.toInt - floor * b.toInt
    InRange rest ∧
    (0 < b.toInt → 0 ≤ rest ∧ rest < b.toInt) ∧
    (b.toInt < 0 → b.toInt < rest ∧ rest ≤ 0) ∧
    ((∃ r : Int64, r.toInt = rest ∧
        integerModulus (i.withIntegers [a, b]) = .ok (some (.integer r))) ↔
      InRange floor ∧ InRange (floor * b.toInt)) ∧
    (integerModulus (i.withIntegers [a, b]) = .error (.overflow i.tag) ↔
      ¬(InRange floor ∧ InRange (floor * b.toInt))) ∧
    ∀ q r : Int64, integerDivide (i.withIntegers [a, b]) = .ok (some (.integer q)) →
      integerModulus (i.withIntegers [a, b]) = .ok (some (.integer r)) →
      q.toInt * b.toInt + r.toInt = a.toInt := by
  intro floor rest
  have value := Integer.toInt_ne_zero nonzero
  obtain ⟨positive, negative⟩ := (floor_div_eq_iff value).1 (rfl : ⌊(a.toInt : ℚ) / b.toInt⌋ = _)
  have range : InRange rest := inRange_sub_floor nonzero
  obtain ⟨r, remainder⟩ := Integer.exists_toInt_eq range
  have answer : integerModulus (i.withIntegers [a, b]) =
      if InRange floor ∧ InRange (floor * b.toInt) then .ok (some (.integer r))
      else .error (.overflow i.tag) := by
    rw [integerModulus, onIntegerPair_withIntegers, if_neg nonzero, remainder?_eq nonzero,
      Integer.ofInt?_eq_some_iff.2 remainder]
    split_ifs <;> rfl
  rw [answer]
  refine ⟨range, positive, negative, ?_, ?_, ?_⟩
  · constructor
    · rintro ⟨_, -, found⟩
      by_contra outside
      rw [if_neg outside] at found
      cases found
    · intro inside
      exact ⟨r, remainder, if_pos inside⟩
  · split_ifs with inside
    · exact iff_of_false nofun (not_not_intro inside)
    · exact iff_of_true rfl inside
  · intro q r' divided found
    have quotient := toInt_of_integerDivide nonzero divided
    split_ifs at found with inside
    cases found
    rw [quotient, remainder]
    exact add_sub_cancel _ _

/-- The quotient of the least integer and three is in range and leaves one over, but the product of
that quotient and three is out of range. The quotient of the least integer and minus one is itself
out of range and leaves nothing over. -/
theorem remainders_beyond_range :
    let divide (a b : Int64) : Result Operand :=
      integerDivide ((Invocation.bare "integerDivide").withIntegers [a, b])
    let modulus (a b : Int64) : Result Operand :=
      integerModulus ((Invocation.bare "integerModulus").withIntegers [a, b])
    (Int64.minValue.toInt = -3074457345618258603 * 3 + 1 ∧
      divide Int64.minValue 3 = .ok (some (.integer (-3074457345618258603))) ∧
      modulus Int64.minValue 3 = .error (.overflow "integerModulus")) ∧
    (Int64.minValue.toInt = 9223372036854775808 * -1 + 0 ∧
      modulus Int64.minValue (-1) = .error (.overflow "integerModulus")) := by
  exact ⟨⟨by decide, rfl, rfl⟩, by decide, rfl⟩

/-- Minus seven and two leave one, with the sign of the divisor. The greatest integer and minus
three leave minus two, but the product of their quotient and minus three is out of range. -/
theorem remainders_across_signs :
    let modulus (a b : Int64) : Result Operand :=
      integerModulus ((Invocation.bare "integerModulus").withIntegers [a, b])
    (∃ r : Int64, r.toInt = 1 ∧ modulus (-7) 2 = .ok (some (.integer r))) ∧
      modulus Int64.maxValue (-3) = .error (.overflow "integerModulus") := by
  intro modulus
  constructor
  · obtain ⟨-, -, -, found, -⟩ := integerModulus_exact_iff (.bare "integerModulus")
      (a := -7) (b := 2) (by decide)
    have floor : ⌊(Int64.toInt (-7) : ℚ) / Int64.toInt 2⌋ = -4 :=
      (floor_div_eq_iff (by decide)).2 (by decide)
    rw [floor] at found
    exact found.2 (by decide)
  · obtain ⟨-, -, -, -, overflow, -⟩ := integerModulus_exact_iff (.bare "integerModulus")
      (a := Int64.maxValue) (b := -3) (by decide)
    have floor : ⌊(Int64.maxValue.toInt : ℚ) / Int64.toInt (-3)⌋ = -3074457345618258603 :=
      (floor_div_eq_iff (by decide)).2 (by decide)
    rw [floor] at overflow
    exact overflow.2 (by decide)

end Arithmetic

end ItemScoring
