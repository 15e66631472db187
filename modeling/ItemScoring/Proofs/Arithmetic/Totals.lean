import Mathlib
import ItemScoring.Proofs.Arithmetic.Operands
import ItemScoring.Proofs.Integer

/-!
# Sums and products are exact

The integers of the operands are added or multiplied one after the other, and each intermediate
result has to be in range. As long as it is, the result is the exact sum or product. As soon as it
is not, the operator reports an overflow, also when the result of all integers would be in range
again. A wrapped or a floating-point result is never given.
-/

set_option autoImplicit false

namespace ItemScoring.Arithmetic

open Integer (InRange)

variable {step : Int64 → Int64 → Option Int64} {op : Int → Int → Int}

/-- Integers are combined to the exact result when all intermediate results are in range, and not
at all when one is not. -/
theorem foldIntegers_eq_some_iff
    (checked : ∀ a b, step a b = Integer.ofInt? (op a.toInt b.toInt)) {sofar result : Int64}
    {ns : List Int64} :
    foldIntegers step sofar ns = some result ↔
      (∀ part, part <+: ns.map Int64.toInt → InRange (part.foldl op sofar.toInt)) ∧
        result.toInt = (ns.map Int64.toInt).foldl op sofar.toInt := by
  induction ns generalizing sofar with
  | nil =>
      have range := Integer.inRange_toInt sofar
      simp [foldIntegers, range, eq_comm, Int64.toInt_inj]
  | cons n rest ih =>
      rw [foldIntegers, List.map_cons, List.foldl_cons]
      cases next : step sofar n with
      | none =>
          have outside : ¬ InRange (op sofar.toInt n.toInt) := by
            rw [← Integer.ofInt?_eq_none_iff, ← checked, next]
          have begins : [n.toInt] <+: n.toInt :: rest.map Int64.toInt := ⟨_, rfl⟩
          constructor
          · intro h
            cases h
          · rintro ⟨inside, -⟩
            exact absurd (inside [n.toInt] begins) outside
      | some word =>
          have exact : word.toInt = op sofar.toInt n.toInt := by
            rw [← Integer.ofInt?_eq_some_iff, ← checked, next]
          have range := Integer.inRange_toInt sofar
          simp only [ih, exact, List.prefix_cons_iff]
          refine and_congr_left fun _ => ⟨?_, ?_⟩
          · rintro inside part (rfl | ⟨others, rfl, begins⟩)
            · exact range
            · exact inside others begins
          · intro inside part begins
            exact inside (n.toInt :: part) (.inr ⟨part, rfl, begins⟩)

/-- Taken from left to right, the integers total to an integer in range all the time. -/
def Stays (total : List Int → Int) (ns : List Int64) : Prop :=
  ∀ part, part <+: ns.map Int64.toInt → InRange (total part)

theorem not_stays {total : List Int → Int} {ns : List Int64} {part : List Int}
    (begins : part <+: ns.map Int64.toInt) (outside : ¬ InRange (total part)) : ¬ Stays total ns :=
  fun stays => outside (stays part begins)

/-- What checked arithmetic answers for integers that it takes from left to right: their exact total
when they stay in range all the time, and an overflow otherwise. -/
structure Checked (i : Invocation) (total : List Int → Int) (ns : List Int64)
    (answer : Result Operand) : Prop where
  exact : Stays total ns →
    ∃ n : Int64, n.toInt = total (ns.map Int64.toInt) ∧ answer = .ok (some (.integer n))
  overflow : ¬ Stays total ns → answer = .error (.overflow i.tag)

section Operands

variable {i : Invocation} {vs : List Value} (operands : i.operands = vs.map some)
  (integers : ∀ v ∈ vs, v.OfIntegers) (there : vs.flatMap Value.integers ≠ [])
include operands integers there

theorem combine_checked (op : Int → Int → Int)
    (checked : ∀ a b, step a b = Integer.ofInt? (op a.toInt b.toInt)) {total : List Int → Int}
    (inside : InRange (total [])) (folds : ∀ n ns, total (n :: ns) = ns.foldl op n)
    (onFloats : Float → Float → Float) :
    Checked i total (vs.flatMap Value.integers) (combine step onFloats i) := by
  have numbers := numbers?_of_integers operands integers there
  have type := resultType_of_integers operands integers
  obtain ⟨n, ns, some⟩ := List.exists_cons_of_ne_nil there
  rw [some] at numbers ⊢
  have found : integerOperands? i ((n :: ns).map .integer) = Option.some (n :: ns) := by
    unfold integerOperands?
    rw [if_pos type, Quantity.integers?_map]
  have parts : Stays total (n :: ns) ↔
      ∀ part, part <+: ns.map Int64.toInt → InRange (part.foldl op n.toInt) := by
    constructor
    · intro stays part begins
      rw [← folds]
      exact stays _ (List.cons_prefix_cons.2 ⟨rfl, begins⟩)
    · intro within part begins
      rcases List.prefix_cons_iff.1 begins with rfl | ⟨others, rfl, rest⟩
      · exact inside
      · rw [folds]
        exact within others rest
  unfold combine
  simp only [numbers, found]
  cases result : foldIntegers step n ns with
  | none =>
      refine ⟨fun stays => ?_, fun _ => rfl⟩
      obtain ⟨word, value⟩ := Integer.exists_toInt_eq (stays _ List.prefix_rfl)
      rw [List.map_cons, folds] at value
      have done := (foldIntegers_eq_some_iff checked).2 ⟨parts.1 stays, value⟩
      rw [result] at done
      cases done
  | some word =>
      obtain ⟨within, value⟩ := (foldIntegers_eq_some_iff checked).1 result
      refine ⟨fun _ => ⟨word, ?_, rfl⟩, ?_⟩
      · rw [List.map_cons, folds, value]
      · intro leaves
        exact absurd (parts.2 within) leaves

theorem sum_checked : Checked i List.sum (vs.flatMap Value.integers) (sum i) := by
  refine combine_checked operands integers there (· + ·) (fun a b => rfl) (by decide) ?_ _
  intro n ns
  rw [List.sum_eq_foldl, List.foldl_cons, Int.zero_add]

theorem product_checked : Checked i List.prod (vs.flatMap Value.integers) (product i) := by
  refine combine_checked operands integers there (· * ·) (fun a b => rfl) (by decide) ?_ _
  intro n ns
  rw [List.prod_eq_foldl, List.foldl_cons, Int.one_mul]

/-- Sums and products of integers are exact when all intermediate results are in range, and an
overflow is reported when one is not. -/
theorem sum_product_exact :
    Checked i List.sum (vs.flatMap Value.integers) (sum i) ∧
      Checked i List.prod (vs.flatMap Value.integers) (product i) :=
  ⟨sum_checked operands integers there, product_checked operands integers there⟩

end Operands

/-- The greatest integer can be followed by a collection, from which the negative integer is taken
first and what is no number is left out. Their sum is exact, and their product is out of range. -/
theorem sorted_collection_total :
    let vs : List Value := [.integer Int64.maxValue,
      .container .multiple .integer [.integer 1, Scalar.notNumber, .integer (-2)]]
    let call (tag : String) : Invocation :=
      ⟨⟨tag, [], [], none⟩, vs.map some, ⟨[], List.Pairwise.nil⟩⟩
    (∃ n : Int64, n.toInt = 9223372036854775806 ∧
      sum (call "sum") = .ok (some (.integer n))) ∧
      product (call "product") = .error (.overflow "product") := by
  intro vs call
  have stored : ∀ s ∈ [Scalar.integer 1, Scalar.notNumber, .integer (-2)], s.StoredAs .integer := by
    intro s mem
    simp only [List.mem_cons, List.not_mem_nil, or_false] at mem
    rcases mem with rfl | rfl | rfl
    · exact .integer 1
    · exact Scalar.notNumber_storedAs
    · exact .integer (-2)
  have integers : ∀ v ∈ vs, v.OfIntegers := by
    intro v mem
    simp only [vs, List.mem_cons, List.not_mem_nil, or_false] at mem
    rcases mem with rfl | rfl
    · exact Value.integer_ofIntegers _
    · exact Value.container_ofIntegers rfl (List.cons_ne_nil _ _) stored
  have sorted : Integer.sort [1, -2] = [-2, 1] := by cbv
  have numbers : vs.flatMap Value.integers = [Int64.maxValue, -2, 1] := by
    change Int64.maxValue :: (Integer.sort [1, -2] ++ []) = _
    rw [sorted]
    rfl
  have there : vs.flatMap Value.integers ≠ [] := by
    rw [numbers]
    exact List.cons_ne_nil _ _
  obtain ⟨total, -⟩ := sum_product_exact (i := call "sum") rfl integers there
  obtain ⟨-, multiplied⟩ := sum_product_exact (i := call "product") rfl integers there
  rw [numbers] at total multiplied
  have negative : [Int64.maxValue.toInt, -2] <+: [Int64.maxValue, -2, 1].map Int64.toInt :=
    ⟨[1], rfl⟩
  refine ⟨total.exact ?_, multiplied.overflow (not_stays negative (by decide))⟩
  intro part begins
  have listed : part ∈ List.inits [Int64.maxValue.toInt, -2, 1] := (List.mem_inits _ _).2 begins
  simp only [List.inits, List.map_cons, List.map_nil, List.mem_cons, List.not_mem_nil,
    or_false] at listed
  rcases listed with rfl | rfl | rfl | rfl <;> decide

end ItemScoring.Arithmetic
