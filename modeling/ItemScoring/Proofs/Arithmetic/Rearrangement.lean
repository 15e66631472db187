import Mathlib
import ItemScoring.Proofs.Arithmetic.Totals

/-!
# The order of integer operands

Sums and products are exact, but an intermediate result that is out of range stops them. So the
order of the operands does not matter when the total of all is out of range, for then every order
ends in an overflow, and when no selection of the operands totals to an integer out of range, for
then none does. In all other cases the order matters. An order that begins with a selection that is
out of range ends in an overflow, and there is always an order that stays within the range: a sum
stays there when a negative operand follows whenever the sum so far is not negative, and a product
when zero comes first, or else the units do.
-/

set_option autoImplicit false

namespace ItemScoring.Arithmetic

open Integer (InRange)

/-! ## Orders that differ -/

theorem ne_nil_of_perm {ms ns : List Int64} (perm : ms.Perm ns) (there : ns ≠ []) : ms ≠ [] := by
  intro none
  subst none
  exact there perm.symm.eq_nil

/-- No selection of the integers totals to an integer out of range. -/
def AlwaysStays (total : List Int → Int) (ns : List Int64) : Prop :=
  ∀ part : List Int, part.Sublist (ns.map Int64.toInt) → InRange (total part)

section Orders

variable {total : List Int → Int} (total_perm : ∀ xs ys, xs.Perm ys → total xs = total ys)

/-- An order that begins with a selection out of range leaves the range. -/
theorem exists_perm_not_stays {ns : List Int64} (h : ¬ AlwaysStays total ns) :
    ∃ ms : List Int64, ms.Perm ns ∧ ¬ Stays total ms := by
  unfold AlwaysStays at h
  push Not at h
  obtain ⟨part, sub, outside⟩ := h
  obtain ⟨selected, chosen, rfl⟩ := List.sublist_map_iff.1 sub
  obtain ⟨rest, split⟩ := chosen.exists_perm_append
  refine ⟨selected ++ rest, split.symm, not_stays ?_ outside⟩
  rw [List.map_append]
  exact List.prefix_append _ _

include total_perm

/-- The beginning of any order is a selection. -/
theorem AlwaysStays.stays {ms ns : List Int64} (always : AlwaysStays total ns) (perm : ms.Perm ns) :
    Stays total ms := by
  intro part begins
  have selected : part.Subperm (ns.map Int64.toInt) :=
    begins.sublist.subperm.trans (perm.map Int64.toInt).subperm
  obtain ⟨arrangement, same, sub⟩ := selected
  rw [← total_perm _ _ same]
  exact always arrangement sub

section Answers

variable {answer : Invocation → Result Operand}
  (checked : ∀ (i : Invocation) (ns : List Int64), ns ≠ [] →
    Checked (i.withIntegers ns) total ns (answer (i.withIntegers ns)))
include checked

/-- Two orders lead to one answer when neither stays in range, and when both always do. -/
theorem eq_of_perm (i : Invocation) {ms ns : List Int64} (perm : ms.Perm ns) (there : ns ≠ [])
    (agree : ¬ InRange (total (ns.map Int64.toInt)) ∨ AlwaysStays total ns) :
    answer (i.withIntegers ms) = answer (i.withIntegers ns) := by
  have equal := total_perm _ _ (perm.map Int64.toInt)
  have filled : ms ≠ [] := ne_nil_of_perm perm there
  rcases agree with outside | always
  · have outside' : ¬ InRange (total (ms.map Int64.toInt)) := by rwa [equal]
    have first := (checked i ms filled).overflow (not_stays List.prefix_rfl outside')
    have second := (checked i ns there).overflow (not_stays List.prefix_rfl outside)
    rw [first, second]
    rfl
  · obtain ⟨m, left, first⟩ := (checked i ms filled).exact (always.stays total_perm perm)
    obtain ⟨n, right, second⟩ := (checked i ns there).exact (always.stays total_perm (.refl _))
    have same : m = n := Int64.toInt_inj.1 (left.trans (equal.trans right.symm))
    rw [first, second, same]

omit total_perm in
/-- An order that stays in range and one that does not lead to different answers. -/
theorem ne_of_stays (i : Invocation) {ls ms : List Int64} (there : ms ≠ []) (there' : ls ≠ [])
    (stays : Stays total ms) (leaves : ¬ Stays total ls) :
    answer (i.withIntegers ms) ≠ answer (i.withIntegers ls) := by
  obtain ⟨n, -, succeeds⟩ := (checked i ms there).exact stays
  have fails := (checked i ls there').overflow leaves
  rw [succeeds, fails]
  nofun

/-- All orders lead to one answer exactly when no selection of the integers, or else the total of
all of them, is out of range. -/
theorem forall_perm_eq_iff (nothing : InRange (total []))
    (arranged : ∀ ns : List Int64, InRange (total (ns.map Int64.toInt)) →
      ∃ ms : List Int64, ms.Perm ns ∧ Stays total ms)
    (i : Invocation) (ns : List Int64) :
    (∀ ms : List Int64, ms.Perm ns →
        answer (i.withIntegers ms) = answer (i.withIntegers ns)) ↔
      ¬ InRange (total (ns.map Int64.toInt)) ∨ AlwaysStays total ns := by
  by_cases there : ns = []
  · subst there
    have always : AlwaysStays total [] := by
      intro part sub
      rw [List.sublist_nil.1 sub]
      exact nothing
    refine ⟨fun _ => .inr always, ?_⟩
    intro _ ms perm
    rw [perm.eq_nil]
  constructor
  · intro same
    by_contra neither
    push Not at neither
    obtain ⟨range, selection⟩ := neither
    obtain ⟨ms, perm, stays⟩ := arranged ns range
    obtain ⟨ls, perm', leaves⟩ := exists_perm_not_stays selection
    have filled := ne_nil_of_perm perm there
    have filled' := ne_nil_of_perm perm' there
    apply ne_of_stays checked i filled filled' stays leaves
    rw [same ms perm, same ls perm']
  · intro agree ms perm
    exact eq_of_perm total_perm checked i perm there agree

end Answers

end Orders

/-! ## Sums without overflow -/

/-- Integers of one sign do not go beyond their sum. -/
theorem inRange_part {s : Int} {ns : List Int} (start : InRange s) (finish : InRange (s + ns.sum))
    (sign : (∀ n ∈ ns, 0 ≤ n) ∨ ∀ n ∈ ns, n ≤ 0) {part : List Int} (begins : part <+: ns) :
    InRange (s + part.sum) := by
  have nonpos_sum : ∀ ms : List Int, (∀ m ∈ ms, m ≤ 0) → ms.sum ≤ 0 := by
    intro ms nonpos
    simpa using List.sum_le_card_nsmul ms 0 nonpos
  obtain ⟨rest, rfl⟩ := begins
  rw [List.sum_append] at finish
  unfold InRange at *
  rcases sign with nonneg | nonpos
  · have first : 0 ≤ part.sum := List.sum_nonneg fun n hn => nonneg n (List.mem_append_left _ hn)
    have others : 0 ≤ rest.sum := List.sum_nonneg fun n hn => nonneg n (List.mem_append_right _ hn)
    omega
  · have first : part.sum ≤ 0 := nonpos_sum _ fun n hn => nonpos n (List.mem_append_left _ hn)
    have others : rest.sum ≤ 0 := nonpos_sum _ fun n hn => nonpos n (List.mem_append_right _ hn)
    omega

/-- An integer of the other sign leads back into the range. -/
theorem inRange_add_of_opposite {s n : Int} (start : InRange s) (range : InRange n)
    (opposite : 0 ≤ s ∧ n < 0 ∨ s < 0 ∧ 0 ≤ n) : InRange (s + n) := by
  have low : Integer.least < 0 := by decide
  have high : 0 < Integer.greatest := by decide
  unfold InRange at *
  omega

/-- When the sum of integers is in range, an order of them stays in range all the time. -/
theorem exists_perm_stays_sum {s : Int} (start : InRange s) (ns : List Int64)
    (finish : InRange (s + (ns.map Int64.toInt).sum)) :
    ∃ ms : List Int64, ms.Perm ns ∧
      ∀ part, part <+: ms.map Int64.toInt → InRange (s + part.sum) := by
  -- The sum so far stays in range, and an integer of the other sign comes next while there is one.
  induction length : ns.length generalizing ns s with
  | zero =>
      obtain rfl := List.length_eq_zero_iff.1 length
      refine ⟨[], .refl _, fun part begins => ?_⟩
      rw [List.prefix_nil.1 begins]
      simpa using start
  | succ size ih =>
      by_cases opposite : ∃ m ∈ ns, 0 ≤ s ∧ m.toInt < 0 ∨ s < 0 ∧ 0 ≤ m.toInt
      · obtain ⟨m, mem, sign⟩ := opposite
        have step := inRange_add_of_opposite start (Integer.inRange_toInt m) sign
        have perm := List.perm_cons_erase mem
        have sum := (perm.map Int64.toInt).sum_eq
        rw [List.map_cons, List.sum_cons] at sum
        rw [sum, ← Int.add_assoc] at finish
        have shorter : (ns.erase m).length = size := by
          rw [List.length_erase_of_mem mem, length]
          rfl
        obtain ⟨ms, same, within⟩ := ih step (ns.erase m) finish shorter
        refine ⟨m :: ms, (same.cons m).trans perm.symm, ?_⟩
        intro part begins
        rcases List.prefix_cons_iff.1 begins with rfl | ⟨others, rfl, rest⟩
        · simpa using start
        · rw [List.sum_cons, ← Int.add_assoc]
          exact within others rest
      · push Not at opposite
        have sign : (∀ n ∈ ns.map Int64.toInt, 0 ≤ n) ∨ ∀ n ∈ ns.map Int64.toInt, n ≤ 0 := by
          by_cases nonneg : 0 ≤ s
          · left
            intro n hn
            obtain ⟨m, mem, rfl⟩ := List.mem_map.1 hn
            exact (opposite m mem).1 nonneg
          · right
            intro n hn
            obtain ⟨m, mem, rfl⟩ := List.mem_map.1 hn
            have negative := (opposite m mem).2 (by omega)
            omega
        exact ⟨ns, .refl _, fun part begins => inRange_part start finish sign begins⟩

/-! ## Products without overflow -/

theorem inRange_of_natAbs_lt {n : Int} (h : n.natAbs < Integer.bound) : InRange n := by
  unfold InRange Integer.least Integer.greatest
  omega

theorem natAbs_le_of_inRange {n : Int} (h : InRange n) : n.natAbs ≤ Integer.bound := by
  unfold InRange Integer.least Integer.greatest at h
  omega

theorem natAbs_prod_of_units {ns : List Int} (units : ∀ n ∈ ns, n.natAbs = 1) :
    ns.prod.natAbs = 1 := by
  induction ns with
  | nil => rfl
  | cons n rest ih =>
      obtain ⟨first, others⟩ := List.forall_mem_cons.1 units
      rw [List.prod_cons, Int.natAbs_mul, first, ih others]

/-- Integers that are neither zero nor units double the magnitude of a product at least, so what
comes before the last of them is in range when the whole product is. -/
theorem inRange_of_proper_part {part rest : List Int} (finish : InRange (part ++ rest).prod)
    (more : rest ≠ []) (large : ∀ n ∈ rest, 2 ≤ n.natAbs) : InRange part.prod := by
  obtain ⟨r, tail, rfl⟩ := List.exists_cons_of_ne_nil more
  have doubled : 2 ≤ r.natAbs := large r List.mem_cons_self
  have nonzero : tail.prod ≠ 0 := by
    apply List.prod_ne_zero
    intro zero
    have := large 0 (List.mem_cons_of_mem _ zero)
    omega
  have positive : 1 ≤ tail.prod.natAbs := Int.natAbs_pos.2 nonzero
  have whole : (part ++ r :: tail).prod.natAbs =
      part.prod.natAbs * (r.natAbs * tail.prod.natAbs) := by
    rw [List.prod_append, List.prod_cons, Int.natAbs_mul, Int.natAbs_mul]
  have limit := natAbs_le_of_inRange finish
  have bound : part.prod.natAbs * 2 ≤ Integer.bound :=
    calc part.prod.natAbs * 2
        ≤ part.prod.natAbs * (r.natAbs * tail.prod.natAbs) :=
          Nat.mul_le_mul_left _ (Nat.mul_le_mul doubled positive)
      _ ≤ Integer.bound := whole ▸ limit
  have large : 0 < Integer.bound := by decide
  apply inRange_of_natAbs_lt
  omega

/-- Integers of which the units come first. -/
def unitsFirst (ns : List Int64) : List Int64 :=
  let isUnit (n : Int64) : Bool := n.toInt.natAbs = 1
  ns.filter isUnit ++ ns.filter fun n => !isUnit n

theorem unitsFirst_perm (ns : List Int64) : (unitsFirst ns).Perm ns :=
  List.filter_append_perm _ ns

theorem unitsFirst_stays {ns : List Int64} (zero : 0 ∉ ns)
    (finish : InRange ((unitsFirst ns).map Int64.toInt).prod) :
    Stays List.prod (unitsFirst ns) := by
  intro part begins
  obtain ⟨rest, split⟩ := begins
  rw [← split] at finish
  rw [unitsFirst, List.map_append, List.append_eq_append_iff] at split
  rcases split with ⟨others, units, -⟩ | ⟨others, -, large⟩
  · -- Only units so far.
    apply inRange_of_natAbs_lt
    rw [natAbs_prod_of_units]
    · decide
    · intro n hn
      have mem : n ∈ part ++ others := List.mem_append_left _ hn
      rw [← units] at mem
      obtain ⟨m, hm, rfl⟩ := List.mem_map.1 mem
      simpa using (List.mem_filter.1 hm).2
  · -- All units are among the first ones, and none is left.
    by_cases more : rest = []
    · simpa [more] using finish
    · refine inRange_of_proper_part finish more ?_
      intro n hn
      have mem : n ∈ others ++ rest := List.mem_append_right _ hn
      rw [← large] at mem
      obtain ⟨m, hm, rfl⟩ := List.mem_map.1 mem
      obtain ⟨there, unit⟩ := List.mem_filter.1 hm
      have notUnit : m.toInt.natAbs ≠ 1 := by simpa using unit
      have nonzero : m.toInt ≠ 0 := by
        intro value
        obtain rfl : m = 0 := Int64.toInt_inj.1 value
        exact zero there
      omega

/-- When the product of integers is in range, an order of them stays in range all the time. -/
theorem exists_perm_stays_product (ns : List Int64)
    (finish : InRange (ns.map Int64.toInt).prod) :
    ∃ ms : List Int64, ms.Perm ns ∧ Stays List.prod ms := by
  by_cases zero : 0 ∈ ns
  · refine ⟨0 :: ns.erase 0, (List.perm_cons_erase zero).symm, ?_⟩
    intro part begins
    rcases List.prefix_cons_iff.1 begins with rfl | ⟨others, rfl, -⟩
    · decide
    · have vanishes : (Int64.toInt 0 :: others).prod = 0 := by
        rw [List.prod_cons]
        exact Int.zero_mul _
      rw [vanishes]
      decide
  · have perm := unitsFirst_perm ns
    refine ⟨unitsFirst ns, perm, unitsFirst_stays zero ?_⟩
    rwa [(perm.map Int64.toInt).prod_eq]

/-! ## The operators -/

theorem sum_withIntegers (i : Invocation) (ns : List Int64) (there : ns ≠ []) :
    Checked (i.withIntegers ns) List.sum ns (sum (i.withIntegers ns)) := by
  have checked := sum_checked (i := i.withIntegers ns) rfl (forall_ofIntegers ns)
    (by rwa [flatMap_integers])
  rwa [flatMap_integers] at checked

theorem product_withIntegers (i : Invocation) (ns : List Int64) (there : ns ≠ []) :
    Checked (i.withIntegers ns) List.prod ns (product (i.withIntegers ns)) := by
  have checked := product_checked (i := i.withIntegers ns) rfl (forall_ofIntegers ns)
    (by rwa [flatMap_integers])
  rwa [flatMap_integers] at checked

/-- Sums do not depend on the order of integer operands exactly when the sum of all is out of range
or that of no selection of them is, and the same is true of products. -/
theorem sum_product_order_iff (i : Invocation) (ns : List Int64) :
    ((∀ ms : List Int64, ms.Perm ns → sum (i.withIntegers ms) = sum (i.withIntegers ns)) ↔
      ¬ InRange (ns.map Int64.toInt).sum ∨ AlwaysStays List.sum ns) ∧
    ((∀ ms : List Int64, ms.Perm ns → product (i.withIntegers ms) = product (i.withIntegers ns)) ↔
      ¬ InRange (ns.map Int64.toInt).prod ∨ AlwaysStays List.prod ns) := by
  constructor
  · apply forall_perm_eq_iff (fun _ _ perm => perm.sum_eq) sum_withIntegers (by decide)
    intro ns range
    have start : InRange 0 := by decide
    obtain ⟨ms, perm, stays⟩ := exists_perm_stays_sum start ns (by rwa [Int.zero_add])
    refine ⟨ms, perm, fun part begins => ?_⟩
    simpa using stays part begins
  · exact forall_perm_eq_iff (fun _ _ perm => perm.prod_eq) product_withIntegers (by decide)
      exists_perm_stays_product i ns

/-- The greatest integer, one and minus one add up in one order and not in another, and so do two
integers with a product out of range that zero comes before or after. -/
theorem order_matters :
    let call (tag : String) : Invocation := ⟨⟨tag, [], [], none⟩, [], ⟨[], List.Pairwise.nil⟩⟩
    let add (ns : List Int64) := sum ((call "sum").withIntegers ns)
    let multiply (ns : List Int64) := product ((call "product").withIntegers ns)
    ([Int64.maxValue, 1, -1].Perm [Int64.maxValue, -1, 1] ∧
      add [Int64.maxValue, 1, -1] = .error (.overflow "sum") ∧
      add [Int64.maxValue, -1, 1] = .ok (some (.integer Int64.maxValue))) ∧
    ([Int64.maxValue, 2, 0].Perm [0, Int64.maxValue, 2] ∧
      multiply [Int64.maxValue, 2, 0] = .error (.overflow "product") ∧
      multiply [0, Int64.maxValue, 2] = .ok (some (.integer 0))) := by
  refine ⟨⟨by decide, rfl, rfl⟩, by decide, rfl, rfl⟩

end ItemScoring.Arithmetic
