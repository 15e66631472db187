import Mathlib
import ItemScoring.Proofs.Arithmetic.Operands
import ItemScoring.Proofs.Integer

/-!
# Least common multiples

The least common multiple of integers is taken of their magnitudes, from left to right, in unsigned
words. A common multiple so far divides the one of all, so an unsigned word is too small for it only
when the result is out of range anyway, unless the result is zero; and zeros are looked for first.
So the least common multiple is found exactly when it is in range, whatever the order.
-/

set_option autoImplicit false

namespace ItemScoring.Arithmetic

open Integer (InRange greatestMagnitude)

/-! ## Magnitudes -/

theorem commonDivisor_eq_gcd (a b : Nat) : commonDivisor a b = Nat.gcd a b := by
  fun_induction commonDivisor a b with
  | case1 a => rw [Nat.gcd_zero_right]
  | case2 a b nonzero ih => rw [ih, Nat.gcd_comm, ← Nat.gcd_rec, Nat.gcd_comm]

theorem mul_commonDivisor (a b : Nat) : a / commonDivisor a b * b = Nat.lcm a b := by
  rw [commonDivisor_eq_gcd, Nat.div_mul_right_comm (Nat.gcd_dvd_left a b)]
  rfl

/-- The multiples of the least common multiple are the common multiples. -/
theorem foldl_lcm_dvd_iff {sofar k : Nat} {ms : List Nat} :
    ms.foldl Nat.lcm sofar ∣ k ↔ sofar ∣ k ∧ ∀ m ∈ ms, m ∣ k := by
  induction ms generalizing sofar with
  | nil => simp
  | cons m rest ih =>
      rw [List.foldl_cons, ih, Nat.lcm_dvd_iff, List.forall_mem_cons, and_assoc]

theorem foldl_lcm_ne_zero {sofar : Nat} {ms : List Nat} (nonzero : sofar ≠ 0) (zero : 0 ∉ ms) :
    ms.foldl Nat.lcm sofar ≠ 0 := by
  induction ms generalizing sofar with
  | nil => exact nonzero
  | cons m rest ih =>
      rw [List.mem_cons, not_or] at zero
      exact ih (Nat.lcm_ne_zero nonzero (Ne.symm zero.1)) zero.2

/-- The common multiple so far goes beyond unsigned words only when that of all magnitudes does. -/
theorem foldlM_commonMultiple? {sofar : Nat} {ms : List Nat} (nonzero : sofar ≠ 0)
    (held : sofar ≤ greatestMagnitude) (zero : 0 ∉ ms) :
    ms.foldlM commonMultiple? sofar =
      if ms.foldl Nat.lcm sofar ≤ greatestMagnitude then some (ms.foldl Nat.lcm sofar)
      else none := by
  induction ms generalizing sofar with
  | nil => simp [held]
  | cons m rest ih =>
      rw [List.mem_cons, not_or] at zero
      have next : Nat.lcm sofar m ≠ 0 := Nat.lcm_ne_zero nonzero (Ne.symm zero.1)
      rw [List.foldlM_cons, List.foldl_cons, commonMultiple?, Integer.mulMagnitudes?,
        mul_commonDivisor]
      by_cases small : Nat.lcm sofar m ≤ greatestMagnitude
      · rw [if_pos small]
        exact ih next small zero.2
      · -- The multiple so far is too large, and it divides that of all.
        have divides : Nat.lcm sofar m ∣ rest.foldl Nat.lcm (Nat.lcm sofar m) :=
          (foldl_lcm_dvd_iff.1 (dvd_refl _)).1
        have grows := Nat.le_of_dvd (Nat.pos_of_ne_zero (foldl_lcm_ne_zero next zero.2)) divides
        rw [if_neg small, if_neg (by omega)]
        rfl

/-- The least common multiple of magnitudes is found when it is the magnitude of an integer in
range. -/
theorem commonMultiples?_bind (ms : List Nat) :
    ((commonMultiples? ms).bind fun m => Integer.ofInt? m) =
      Integer.ofInt? (ms.foldl Nat.lcm 1 : Nat) := by
  unfold commonMultiples?
  by_cases zero : 0 ∈ ms
  · have vanishes : ms.foldl Nat.lcm 1 = 0 :=
      Nat.eq_zero_of_zero_dvd ((foldl_lcm_dvd_iff.1 (dvd_refl _)).2 0 zero)
    rw [if_pos (List.contains_iff_mem.2 zero), vanishes]
    rfl
  · have absent : ms.contains 0 = false := by simpa using zero
    rw [absent, if_neg Bool.false_ne_true, foldlM_commonMultiple? one_ne_zero (by decide) zero]
    by_cases small : ms.foldl Nat.lcm 1 ≤ greatestMagnitude
    · rw [if_pos small]
      rfl
    · rw [if_neg small, Option.bind_none, eq_comm, Integer.ofInt?_eq_none_iff]
      rintro ⟨-, high⟩
      unfold Integer.greatest Integer.bound at high
      unfold greatestMagnitude at small
      omega

/-! ## Integers -/

/-- The least common multiple of integers in the order of divisibility, without a sign: its
multiples are the common multiples of the integers. -/
def IsLeastCommonMultiple (m : Nat) (ns : List Int64) : Prop :=
  ∀ k : Int, (m : Int) ∣ k ↔ ∀ n ∈ ns, n.toInt ∣ k

/-- The magnitude of the least common multiple of integers. -/
def multiple (ns : List Int64) : Nat := (ns.map fun n => n.toInt.natAbs).foldl Nat.lcm 1

theorem multiple_isLeast (ns : List Int64) : IsLeastCommonMultiple (multiple ns) ns := by
  intro k
  rw [Int.natCast_dvd, multiple, foldl_lcm_dvd_iff]
  simp [Int.natAbs_dvd_natAbs]

theorem IsLeastCommonMultiple.eq {ns : List Int64} {m : Nat} (h : IsLeastCommonMultiple m ns) :
    m = multiple ns := by
  have other := multiple_isLeast ns
  apply Nat.dvd_antisymm
  · exact Int.natCast_dvd_natCast.1 ((h _).2 ((other _).1 (dvd_refl _)))
  · exact Int.natCast_dvd_natCast.1 ((other _).2 ((h _).1 (dvd_refl _)))

theorem multiple_perm {ms ns : List Int64} (perm : ms.Perm ns) : multiple ms = multiple ns := by
  apply IsLeastCommonMultiple.eq
  intro k
  rw [multiple_isLeast ms k]
  exact forall_congr' fun n => by rw [perm.mem_iff]

theorem multiple_eq_zero_iff {ns : List Int64} : multiple ns = 0 ↔ 0 ∈ ns := by
  constructor
  · intro vanishes
    by_contra absent
    refine foldl_lcm_ne_zero one_ne_zero ?_ vanishes
    intro zero
    obtain ⟨n, mem, value⟩ := List.mem_map.1 zero
    obtain rfl : n = 0 := Int64.toInt_inj.1 (Int.natAbs_eq_zero.1 value)
    exact absent mem
  · intro zero
    have divides := (multiple_isLeast ns (multiple ns)).1 (dvd_refl _) 0 zero
    exact Int.natCast_eq_zero.1 (Int.zero_dvd.1 divides)

section Operands

variable {i : Invocation} {vs : List Value} (operands : i.operands = vs.map some)
  (integers : ∀ v ∈ vs, v.OfIntegers) (there : vs.flatMap Value.integers ≠ [])
include operands integers there

theorem lcm_eq :
    lcm i = match Integer.ofInt? (multiple (vs.flatMap Value.integers)) with
      | some n => .ok (some (.integer n))
      | none => .error (.overflow i.tag) := by
  rw [lcm, onMagnitudes_of_integers operands integers there, commonMultiples?_bind]
  rfl

/-- The least common multiple of integers is found when it is in range, and an overflow is reported
when it is not. It is zero when one of them is, and it does not depend on their order. -/
theorem lcm_exact :
    ∃ m : Nat, IsLeastCommonMultiple m (vs.flatMap Value.integers) ∧
      (m = 0 ↔ 0 ∈ vs.flatMap Value.integers) ∧
      (InRange m → ∃ n : Int64, n.toInt = m ∧ lcm i = .ok (some (.integer n))) ∧
      (¬ InRange m → lcm i = .error (.overflow i.tag)) ∧
      ∀ ws : List Value, ws.Perm vs → lcm { i with operands := ws.map some } = lcm i := by
  have answer := lcm_eq operands integers there
  refine ⟨_, multiple_isLeast _, multiple_eq_zero_iff, ?_, ?_, ?_⟩
  · intro range
    obtain ⟨n, value⟩ := Integer.exists_toInt_eq range
    refine ⟨n, value, ?_⟩
    rw [answer, Integer.ofInt?_eq_some_iff.2 value]
  · intro outside
    rw [answer, Integer.ofInt?_eq_none_iff.2 outside]
  · intro ws perm
    have same : (ws.flatMap Value.integers).Perm (vs.flatMap Value.integers) :=
      perm.flatMap_right _
    have stillThere : ws.flatMap Value.integers ≠ [] := by
      intro none
      rw [none] at same
      exact there same.symm.eq_nil
    have other := lcm_eq (i := { i with operands := ws.map some }) rfl
      (fun v hv => integers v (perm.mem_iff.1 hv)) stillThere
    rw [other, answer, multiple_perm same]
    rfl

end Operands

/-- The least common multiple of four, of six and of minus ten; what is no number is left out. -/
theorem lcm_of_mixed_signs :
    let vs : List Value := [.integer 4,
      .container .multiple .integer [Scalar.notNumber, .integer 6], .integer (-10)]
    let i : Invocation := ⟨⟨"lcm", [], [], none⟩, vs.map some, ⟨[], List.Pairwise.nil⟩⟩
    ∃ n : Int64, n.toInt = 60 ∧ lcm i = .ok (some (.integer n)) := by
  intro vs i
  have stored : ∀ s ∈ [Scalar.notNumber, .integer 6], s.StoredAs .integer := by
    intro s mem
    simp only [List.mem_cons, List.not_mem_nil, or_false] at mem
    rcases mem with rfl | rfl
    · exact Scalar.notNumber_storedAs
    · exact .integer 6
  have integers : ∀ v ∈ vs, v.OfIntegers := by
    intro v mem
    simp only [vs, List.mem_cons, List.not_mem_nil, or_false] at mem
    rcases mem with rfl | rfl | rfl
    · exact Value.integer_ofIntegers 4
    · exact Value.container_ofIntegers rfl (List.cons_ne_nil _ _) stored
    · exact Value.integer_ofIntegers (-10)
  have sorted : Integer.sort [6] = [6] := by cbv
  have numbers : vs.flatMap Value.integers = [4, 6, -10] := by
    change 4 :: (Integer.sort [6] ++ [-10]) = _
    rw [sorted]
    rfl
  have there : vs.flatMap Value.integers ≠ [] := by
    rw [numbers]
    exact List.cons_ne_nil _ _
  obtain ⟨m, least, -, found, -⟩ := lcm_exact (i := i) rfl integers there
  have value : m = 60 := by
    rw [least.eq, numbers]
    decide
  subst value
  exact found (by decide)

end ItemScoring.Arithmetic
