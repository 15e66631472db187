import Mathlib
import ItemScoring.Proofs.Arithmetic.Multiples

/-!
# Greatest common divisors

The greatest common divisor of integers is taken of their magnitudes, from left to right and
beginning with zero, which every magnitude divides. So it is the exact one, whatever the order. A
divisor of an integer other than zero is no greater than its magnitude, and only the least integer
has a magnitude that is out of range. So the answer is an overflow exactly when the least integer is
among the integers, and beside it nothing but zeros.
-/

set_option autoImplicit false

namespace ItemScoring.Arithmetic

open Integer (InRange)

/-! ## Magnitudes -/

theorem foldl_commonDivisor (ms : List Nat) : ms.foldl commonDivisor 0 = ms.foldl Nat.gcd 0 := by
  have same : commonDivisor = Nat.gcd := funext₂ commonDivisor_eq_gcd
  rw [same]

/-- The divisors of the greatest common divisor are the common divisors. -/
theorem dvd_foldl_gcd_iff {sofar k : Nat} {ms : List Nat} :
    k ∣ ms.foldl Nat.gcd sofar ↔ k ∣ sofar ∧ ∀ m ∈ ms, k ∣ m := by
  induction ms generalizing sofar with
  | nil => simp
  | cons m rest ih => rw [List.foldl_cons, ih, Nat.dvd_gcd_iff, List.forall_mem_cons, and_assoc]

theorem foldl_commonDivisor_perm {ms ns : List Nat} (perm : ms.Perm ns) :
    ms.foldl commonDivisor 0 = ns.foldl commonDivisor 0 := by
  rw [foldl_commonDivisor, foldl_commonDivisor]
  exact Nat.dvd_left_iff_eq.1 fun k => by simp only [dvd_foldl_gcd_iff, perm.mem_iff]

/-! ## Integers -/

/-- The greatest common divisor of integers in the order of divisibility, without a sign. -/
structure IsGreatestCommonDivisor (g : Nat) (ns : List Int64) : Prop where
  divides : ∀ n ∈ ns, (g : Int) ∣ n.toInt
  greatest : ∀ k : Int, (∀ n ∈ ns, k ∣ n.toInt) → k ∣ g

/-- The magnitude of the greatest common divisor of integers. -/
def divisor (ns : List Int64) : Nat := (ns.map fun n => n.toInt.natAbs).foldl Nat.gcd 0

theorem dvd_divisor_iff {k : Int} {ns : List Int64} :
    k ∣ divisor ns ↔ ∀ n ∈ ns, k ∣ n.toInt := by
  rw [Int.dvd_natCast, divisor, dvd_foldl_gcd_iff]
  simp [Int.natAbs_dvd_natAbs]

theorem divisor_isGreatest (ns : List Int64) : IsGreatestCommonDivisor (divisor ns) ns where
  divides := dvd_divisor_iff.1 (dvd_refl _)
  greatest _ common := dvd_divisor_iff.2 common

theorem IsGreatestCommonDivisor.eq {ns : List Int64} {g : Nat}
    (h : IsGreatestCommonDivisor g ns) : g = divisor ns := by
  have other := divisor_isGreatest ns
  apply Nat.dvd_antisymm
  · exact Int.natCast_dvd_natCast.1 (other.greatest _ h.divides)
  · exact Int.natCast_dvd_natCast.1 (h.greatest _ other.divides)

theorem toInt_eq_zero_iff {n : Int64} : n.toInt = 0 ↔ n = 0 := Int64.toInt_inj (y := 0)

theorem divisor_eq_zero_iff {ns : List Int64} : divisor ns = 0 ↔ ∀ n ∈ ns, n = 0 := by
  have zero : (0 : Int) ∣ divisor ns ↔ ∀ n ∈ ns, (0 : Int) ∣ n.toInt := dvd_divisor_iff
  simpa only [Int.zero_dvd, Int.natCast_eq_zero, toInt_eq_zero_iff] using zero

/-- A divisor of an integer other than zero is no greater than the magnitude of the least integer,
and as great only when the integer is the least one. -/
theorem le_bound_of_dvd {g : Nat} {n : Int64} (nonzero : n ≠ 0) (divides : (g : Int) ∣ n.toInt) :
    g ≤ Integer.bound ∧ (g = Integer.bound → n = Int64.minValue) := by
  have value : n.toInt ≠ 0 := mt toInt_eq_zero_iff.1 nonzero
  have small : g ≤ n.toInt.natAbs :=
    Nat.le_of_dvd (Int.natAbs_pos.2 value) (Int.natCast_dvd.1 divides)
  have least : Int64.minValue.toInt = -9223372036854775808 := rfl
  have range := Integer.bounds n
  simp only [Integer.least, Integer.greatest, Integer.bound] at range ⊢
  refine ⟨by omega, fun great => Int64.toInt_inj.1 ?_⟩
  omega

theorem divisor_le_bound (ns : List Int64) : divisor ns ≤ Integer.bound := by
  by_cases zeros : ∀ n ∈ ns, n = 0
  · rw [divisor_eq_zero_iff.2 zeros]
    exact Nat.zero_le _
  · push Not at zeros
    obtain ⟨n, mem, nonzero⟩ := zeros
    exact (le_bound_of_dvd nonzero ((divisor_isGreatest ns).divides n mem)).1

theorem inRange_divisor_iff {ns : List Int64} :
    InRange (divisor ns) ↔ divisor ns ≠ Integer.bound := by
  have small := divisor_le_bound ns
  unfold InRange Integer.least Integer.greatest
  omega

/-- The greatest common divisor is out of range when there is nothing but zeros beside the least
integer. -/
theorem divisor_eq_bound_iff {ns : List Int64} :
    divisor ns = Integer.bound ↔
      (∀ n ∈ ns, n = 0 ∨ n = Int64.minValue) ∧ Int64.minValue ∈ ns := by
  have common := divisor_isGreatest ns
  constructor
  · intro great
    have only : ∀ n ∈ ns, n = 0 ∨ n = Int64.minValue := by
      intro n mem
      by_cases zero : n = 0
      · exact .inl zero
      · exact .inr ((le_bound_of_dvd zero (common.divides n mem)).2 great)
    refine ⟨only, ?_⟩
    by_contra absent
    have zeros : ∀ n ∈ ns, n = 0 := by
      intro n mem
      rcases only n mem with zero | rfl
      · exact zero
      · exact absurd mem absent
    rw [divisor_eq_zero_iff.2 zeros] at great
    cases great
  · rintro ⟨only, mem⟩
    apply Nat.dvd_antisymm
    · exact Int.natCast_dvd.1 (common.divides _ mem)
    · refine Int.natCast_dvd_natCast.1 (common.greatest _ fun n hn => ?_)
      rcases only n hn with rfl | rfl
      · exact dvd_zero _
      · decide

/-! ## The operator -/

section Operands

variable {i : Invocation} {vs : List Value} (operands : i.operands = vs.map some)
  (integers : ∀ v ∈ vs, v.OfIntegers) (there : vs.flatMap Value.integers ≠ [])
include operands integers there

theorem gcd_eq :
    gcd i = match Integer.ofInt? (divisor (vs.flatMap Value.integers)) with
      | some n => .ok (some (.integer n))
      | none => .error (.overflow i.tag) := by
  rw [gcd, onMagnitudes_of_integers operands integers there, foldl_commonDivisor]
  rfl

/-- The greatest common divisor of integers is found, zero when all of them are zero, unless there
is nothing but zeros beside the least integer; then an overflow is reported. It does not depend on
their order. -/
theorem gcd_exact :
    ∃ g : Nat, IsGreatestCommonDivisor g (vs.flatMap Value.integers) ∧
      (g = 0 ↔ ∀ n ∈ vs.flatMap Value.integers, n = 0) ∧
      (g = Integer.bound ↔
        (∀ n ∈ vs.flatMap Value.integers, n = 0 ∨ n = Int64.minValue) ∧
          Int64.minValue ∈ vs.flatMap Value.integers) ∧
      (g ≠ Integer.bound → ∃ n : Int64, n.toInt = g ∧ gcd i = .ok (some (.integer n))) ∧
      (g = Integer.bound → gcd i = .error (.overflow i.tag)) ∧
      ∀ ws : List Value, ws.Perm vs → gcd { i with operands := ws.map some } = gcd i := by
  have answer := gcd_eq operands integers there
  refine ⟨_, divisor_isGreatest _, divisor_eq_zero_iff, divisor_eq_bound_iff, ?_, ?_, ?_⟩
  · intro small
    obtain ⟨n, value⟩ := Integer.exists_toInt_eq (inRange_divisor_iff.2 small)
    refine ⟨n, value, ?_⟩
    rw [answer, Integer.ofInt?_eq_some_iff.2 value]
  · intro great
    have outside := mt inRange_divisor_iff.1 (not_not_intro great)
    rw [answer, Integer.ofInt?_eq_none_iff.2 outside]
  · intro ws perm
    refine onMagnitudes_perm operands integers there (fun ms ns same => ?_) perm
    rw [foldl_commonDivisor_perm same]

end Operands

/-- The least integer, six and zero have the greatest common divisor two, and what is no number is
left out. Without the six the answer is an overflow. -/
theorem gcd_beside_least :
    let call (vs : List Value) : Invocation :=
      ⟨⟨"gcd", [], [], none⟩, vs.map some, ⟨[], List.Pairwise.nil⟩⟩
    let zeros : Value := .container .ordered .integer [Scalar.notNumber, .integer 0]
    (∃ n : Int64, n.toInt = 2 ∧
      gcd (call [.integer Int64.minValue, zeros, .integer 6]) = .ok (some (.integer n))) ∧
      gcd (call [.integer Int64.minValue, zeros]) = .error (.overflow "gcd") := by
  intro call zeros
  have stored : ∀ s ∈ [Scalar.notNumber, .integer 0], s.StoredAs .integer := by
    intro s mem
    simp only [List.mem_cons, List.not_mem_nil, or_false] at mem
    rcases mem with rfl | rfl
    · exact Scalar.notNumber_storedAs
    · exact .integer 0
  have integers : ∀ v ∈ [.integer Int64.minValue, zeros, .integer 6], v.OfIntegers := by
    intro v mem
    simp only [List.mem_cons, List.not_mem_nil, or_false] at mem
    rcases mem with rfl | rfl | rfl
    · exact Value.integer_ofIntegers _
    · exact Value.container_ofIntegers rfl (List.cons_ne_nil _ _) stored
    · exact Value.integer_ofIntegers 6
  have fewer : ∀ v ∈ [.integer Int64.minValue, zeros], v.OfIntegers := by
    intro v mem
    exact integers v (by simp only [List.mem_cons] at mem ⊢; tauto)
  have withSix : [.integer Int64.minValue, zeros, .integer 6].flatMap Value.integers =
      [Int64.minValue, 0, 6] := rfl
  have withoutSix : [.integer Int64.minValue, zeros].flatMap Value.integers =
      [Int64.minValue, 0] := rfl
  constructor
  · obtain ⟨g, greatest, -, -, found, -⟩ := gcd_exact
      (i := call [.integer Int64.minValue, zeros, .integer 6]) rfl integers (by simp [withSix])
    have value : g = 2 := by
      rw [greatest.eq, withSix]
      decide
    subst value
    exact found (by decide)
  · obtain ⟨g, -, -, great, -, overflow, -⟩ := gcd_exact
      (i := call [.integer Int64.minValue, zeros]) rfl fewer (by simp [withoutSix])
    rw [withoutSix] at great
    exact overflow (great.2 (by simp))

end ItemScoring.Arithmetic
