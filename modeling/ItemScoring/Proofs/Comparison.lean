import Mathlib
import ItemScoring.Proofs.Arithmetic.Operands
import ItemScoring.Proofs.Binary64.Integers
import ItemScoring.Operator.Comparison

/-!
# Comparing integers

Numbers are compared as floating-point numbers, so integers are compared after they have been
rounded to 53 digits. Rounding keeps the order of integers but may make different ones equal: the
comparisons answer as the order of integers does exactly where it does not. Matching compares the
integers themselves and always tells them apart.
-/

set_option autoImplicit false

namespace ItemScoring

open Binary64

namespace Comparison

/-! ## Answers of an order -/

/-- The comparisons answer as the order of two integers does. -/
structure AnswersAs (i : Invocation) (m n : Int) : Prop where
  lt : lt i = .ok (.boolean (m < n))
  gt : gt i = .ok (.boolean (m > n))
  lte : lte i = .ok (.boolean (m ≤ n))
  gte : gte i = .ok (.boolean (m ≥ n))
  equal : toleranceMode i.expression = .ok .exact → equal i = .ok (.boolean (m = n))

theorem boolean_inj {p q : Prop} [Decidable p] [Decidable q] :
    (.ok (.boolean p) : Result Operand) = .ok (.boolean q) ↔ (p ↔ q) := by
  simp [Operand.boolean, Value.boolean, Value.single]

/-- The answers leave no choice about the order. -/
theorem AnswersAs.iff_compare {i : Invocation} {a b m n : Int} (answers : AnswersAs i m n) :
    AnswersAs i a b ↔ compare a b = compare m n := by
  constructor
  · intro others
    have less : a < b ↔ m < n := boolean_inj.1 (others.lt.symm.trans answers.lt)
    have greater : b < a ↔ n < m := boolean_inj.1 (others.gt.symm.trans answers.gt)
    exact compare_congr less greater
  · intro same
    rw [← cmp_eq_compare, ← cmp_eq_compare] at same
    have turned := cmp_eq_cmp_symm.1 same
    exact {
      lt := answers.lt.trans (boolean_inj.2 (lt_iff_lt_of_cmp_eq_cmp same).symm)
      gt := answers.gt.trans (boolean_inj.2 (lt_iff_lt_of_cmp_eq_cmp turned).symm)
      lte := answers.lte.trans (boolean_inj.2 (le_iff_le_of_cmp_eq_cmp same).symm)
      gte := answers.gte.trans (boolean_inj.2 (le_iff_le_of_cmp_eq_cmp turned).symm)
      equal := fun exact =>
        (answers.equal exact).trans (boolean_inj.2 (eq_iff_eq_of_cmp_eq_cmp same).symm) }

/-- Rounding keeps the order of integers unless it makes different ones equal. -/
theorem compare_nearest_iff {a b : Int} :
    compare a b = compare (nearest a) (nearest b) ↔ a = b ∨ nearest a ≠ nearest b := by
  constructor
  · intro same
    by_contra! merged
    rw [merged.2, compare_eq_iff_eq.2 rfl, compare_eq_iff_eq] at same
    exact merged.1 same
  · rintro (rfl | apart)
    · rw [compare_eq_iff_eq.2 rfl, compare_eq_iff_eq.2 rfl]
    · rcases lt_trichotomy a b with less | rfl | greater
      · rw [compare_lt_iff_lt.2 less, compare_lt_iff_lt.2 ((nearest_mono less.le).lt_of_ne apart)]
      · exact absurd rfl apart
      · rw [compare_gt_iff_gt.2 greater,
          compare_gt_iff_gt.2 ((nearest_mono greater.le).lt_of_ne apart.symm)]

/-! ## Integers as operands -/

section Integers

variable (i : Invocation) (a b : Int64)

theorem natAbs_toInt_lt (n : Int64) : n.toInt.natAbs < 2 ^ 64 := by
  have low := n.le_toInt
  have high := n.toInt_lt
  omega

theorem number?_withIntegers_zero :
    (i.withIntegers [a, b]).number? 0 = some (ofInteger a.toInt) := by
  have number := isNaN_ofInteger (natAbs_toInt_lt a)
  change Option.filter _ (some (ofInteger a.toInt)) = _
  simp only [Option.filter_some, number, Bool.not_false, if_true]

theorem number?_withIntegers_one :
    (i.withIntegers [a, b]).number? 1 = some (ofInteger b.toInt) := by
  have number := isNaN_ofInteger (natAbs_toInt_lt b)
  change Option.filter _ (some (ofInteger b.toInt)) = _
  simp only [Option.filter_some, number, Bool.not_false, if_true]

/-- A comparison answers whether a condition holds that its test decides. -/
theorem compareNumbers_withIntegers {test : Float → Float → Bool} {p : Prop} [Decidable p]
    (decides : test (ofInteger a.toInt) (ofInteger b.toInt) = true ↔ p) :
    compareNumbers test (i.withIntegers [a, b]) = .ok (.boolean p) := by
  have answer : test (ofInteger a.toInt) (ofInteger b.toInt) = decide p :=
    Bool.eq_iff_iff.2 (decides.trans decide_eq_true_iff.symm)
  rw [compareNumbers, number?_withIntegers_zero, number?_withIntegers_one, ← answer]

/-- The comparisons answer as the order of the nearest integers with 53 digits does. -/
theorem answersAs_nearest :
    AnswersAs (i.withIntegers [a, b]) (nearest a.toInt) (nearest b.toInt) := by
  have first := natAbs_toInt_lt a
  have second := natAbs_toInt_lt b
  exact {
    lt := compareNumbers_withIntegers i a b
      (decide_eq_true_iff.trans (ofInteger_lt_iff first second))
    gt := compareNumbers_withIntegers i a b
      (decide_eq_true_iff.trans (ofInteger_lt_iff second first))
    lte := compareNumbers_withIntegers i a b
      (decide_eq_true_iff.trans (ofInteger_le_iff first second))
    gte := compareNumbers_withIntegers i a b
      (decide_eq_true_iff.trans (ofInteger_le_iff second first))
    equal := by
      intro exact
      have answer : (ofInteger a.toInt == ofInteger b.toInt) =
          decide (nearest a.toInt = nearest b.toInt) :=
        Bool.eq_iff_iff.2 ((ofInteger_beq_iff first second).trans decide_eq_true_iff.symm)
      rw [equal, exact, number?_withIntegers_zero, number?_withIntegers_one, ← answer]
      rfl }

/-- Matching tells integers apart. -/
theorem matchValues_withIntegers :
    matchValues (i.withIntegers [a, b]) = .ok (.boolean (a = b)) := by
  have agreement : valuesAgree (.integer a) (.integer b) = decide (a = b) := by
    rw [Value.integer, Value.single, Value.integer, Value.single, valuesAgree, payloadsAgree]
    change (true && (true && ((a == b) && true))) = _
    rw [Bool.true_and, Bool.true_and, Bool.and_true, beq_eq_decide]
  change Except.ok (Operand.boolean (valuesAgree (.integer a) (.integer b))) = _
  rw [agreement]

end Integers

/-- Comparisons go by the nearest integers with 53 digits. They answer as the order of the integers
themselves does exactly when the integers are equal or the nearest ones differ, as those of no more
than 53 digits do. Then the comparison for equality agrees with matching, which is always right, and
in any case exactly one of less, equal and greater is true. -/
theorem comparisons_exact_iff (i : Invocation) (a b : Int64) :
    let j := i.withIntegers [a, b]
    AnswersAs j (nearest a.toInt) (nearest b.toInt) ∧
    (AnswersAs j a.toInt b.toInt ↔ a = b ∨ nearest a.toInt ≠ nearest b.toInt) ∧
    (a.toInt.natAbs ≤ 2 ^ 53 → b.toInt.natAbs ≤ 2 ^ 53 → AnswersAs j a.toInt b.toInt) ∧
    matchValues j = .ok (.boolean (a = b)) ∧
    (toleranceMode i.expression = .ok .exact →
      (equal j = matchValues j ↔ a = b ∨ nearest a.toInt ≠ nearest b.toInt) ∧
      ∃ order : Ordering, lt j = .ok (.boolean (order = .lt)) ∧
        equal j = .ok (.boolean (order = .eq)) ∧ gt j = .ok (.boolean (order = .gt))) := by
  intro j
  have rounded : AnswersAs j (nearest a.toInt) (nearest b.toInt) := answersAs_nearest i a b
  have same : a.toInt = b.toInt ↔ a = b := Int64.toInt_inj
  have exactly : AnswersAs j a.toInt b.toInt ↔ a = b ∨ nearest a.toInt ≠ nearest b.toInt := by
    rw [rounded.iff_compare, compare_nearest_iff, same]
  have matched : matchValues j = .ok (.boolean (a = b)) := matchValues_withIntegers i a b
  refine ⟨rounded, exactly, ?_, matched, ?_⟩
  · intro first second
    rw [rounded.iff_compare, nearest_of_le first, nearest_of_le second]
  · intro exact
    constructor
    · rw [rounded.equal exact, matched, boolean_inj]
      constructor
      · intro agree
        by_cases equal : a = b
        · exact .inl equal
        · exact .inr (mt agree.1 equal)
      · rintro (rfl | apart)
        · exact iff_of_true rfl rfl
        · exact iff_of_false apart fun equal => apart (congrArg (fun n => nearest n.toInt) equal)
    · refine ⟨compare (nearest a.toInt) (nearest b.toInt), ?_, ?_, ?_⟩
      · rw [rounded.lt, boolean_inj, compare_lt_iff_lt]
      · rw [rounded.equal exact, boolean_inj, compare_eq_iff_eq]
      · rw [rounded.gt, boolean_inj, compare_gt_iff_gt]

/-- The least positive integer that is no floating-point number is equal to the one before it, and
is not greater, although matching tells them apart. -/
theorem comparisons_merge_neighbours :
    let j := (Invocation.bare "equal").withIntegers [9007199254740992, 9007199254740993]
    Int64.toInt 9007199254740992 < Int64.toInt 9007199254740993 ∧
    lt j = .ok (.boolean false) ∧ gte j = .ok (.boolean true) ∧
    equal j = .ok (.boolean true) ∧ matchValues j = .ok (.boolean false) := by
  intro j
  have kept : nearest (Int64.toInt 9007199254740992) = 9007199254740992 := by decide +kernel
  have merged : nearest (Int64.toInt 9007199254740993) = 9007199254740992 := by decide +kernel
  have rounded := answersAs_nearest (.bare "equal") 9007199254740992 9007199254740993
  rw [kept, merged] at rounded
  exact ⟨by decide, rounded.lt, rounded.gte, rounded.equal rfl, matchValues_withIntegers _ _ _⟩

/-- Minus seven is less than two, and the comparisons say so. -/
theorem comparisons_across_signs :
    let j := (Invocation.bare "equal").withIntegers [-7, 2]
    lt j = .ok (.boolean true) ∧ gte j = .ok (.boolean false) ∧
    equal j = .ok (.boolean false) ∧ matchValues j = .ok (.boolean false) := by
  intro j
  obtain ⟨-, -, small, matched, equality⟩ := comparisons_exact_iff (.bare "equal") (-7) 2
  have answers := small (by decide) (by decide)
  obtain ⟨agreement, -⟩ := equality rfl
  have agree : equal j = matchValues j := agreement.2 (.inr (by decide +kernel))
  exact ⟨answers.lt, answers.gte, agree.trans matched, matched⟩

end Comparison

end ItemScoring
