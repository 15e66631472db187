import Mathlib.Algebra.Order.Ring.Int
import Mathlib.Logic.ExistsUnique
import Mathlib.Tactic.Lift
import ItemScoring.Leaf
import ItemScoring.Proofs.Integer

/-!
# Random integers

A random integer is taken from a slot of a range: the slots are counted from zero, and the integer
in a slot lies as many steps above the minimum. Words hold the number of a slot, the length of the
steps to it and the integer in it, so nothing overflows on the way. Every integer of the range that
lies whole steps above the minimum is in exactly one slot (`IsRange.existsUnique_slot`).
-/

set_option autoImplicit false

namespace ItemScoring

/-! ## Integers as attributes -/

namespace Attribute

/-- A numeral is no reference. -/
theorem reference?_of_spells {raw : String} {n : Int} (h : Integer.Spells raw.toList n) :
    reference? raw = none := by
  have bare : Text.trimChars raw.toList = raw.toList := Text.trimChars_of_trimmed h.isWord.trimmed
  rw [reference?, referenceChars?, bare]
  generalize raw.toList = cs at h
  cases h with
  | plain h =>
      -- The first character is a digit and no brace.
      obtain ⟨d, ds, rfl⟩ := List.exists_cons_of_ne_nil h.nonempty
      have digit : d.isDigit = true := h.digits d List.mem_cons_self
      split
      next brace =>
        obtain rfl := (List.cons.inj brace).1
        cases digit
      next => rfl
  | plus h => rfl
  | minus h => rfl

/-- An attribute that is the text of an integer is read as the integer. -/
theorem integer_of_text {e : Expression} {name : String} {n : Int64} (s : Session)
    (given : e.attribute? name = some (Integer.text n.toInt)) :
    integer e s name = .ok (some n) := by
  have spells := Integer.spells_text n.toInt
  have bare : Text.trim (Integer.text n.toInt) = Integer.text n.toInt :=
    Text.trim_of_trimmed spells.isWord.trimmed
  rw [integer, given]
  dsimp only
  rw [reference?_of_spells spells]
  dsimp only
  rw [bare, Integer.read_eq_ok.2 spells]

end Attribute

namespace Leaf

variable {e : Expression} {s : Session} {min max step : Int64}

/-! ## Ranges -/

/-- The range that an expression asks for. The minimum is zero where none is given, and the step is
one. -/
structure AsksFor (e : Expression) (s : Session) (min max step : Int64) : Prop where
  minimum : ∃ given, Attribute.integer e s "min" = .ok given ∧ given.getD 0 = min
  maximum : Attribute.integer e s "max" = .ok (some max)
  step : ∃ given, Attribute.integer e s "step" = .ok given ∧ given.getD 1 = step

/-- An expression that asks for a range. -/
def rangeNode (min max step : Int64) : Expression :=
  ⟨"randomInteger", [("max", Integer.text max.toInt), ("min", Integer.text min.toInt),
    ("step", Integer.text step.toInt)], [], none⟩

/-- Any three words can be asked for. -/
theorem asksFor_rangeNode (s : Session) (min max step : Int64) :
    AsksFor (rangeNode min max step) s min max step where
  minimum := ⟨some min, Attribute.integer_of_text s rfl, rfl⟩
  maximum := Attribute.integer_of_text s rfl
  step := ⟨some step, Attribute.integer_of_text s rfl, rfl⟩

/-- The range goes upwards from its minimum, and a word holds its width. -/
structure IsRange (min max step : Int64) : Prop where
  ordered : min.toInt ≤ max.toInt
  upward : 1 ≤ step.toInt
  width : Integer.InRange (max.toInt - min.toInt)

/-- The integer lies in the range, whole steps above the minimum. -/
structure InSteps (min max step n : Int64) : Prop where
  low : min.toInt ≤ n.toInt
  high : n.toInt ≤ max.toInt
  steps : step.toInt ∣ n.toInt - min.toInt

/-- The whole steps that fit in the width of a range. The slots are counted from zero up to it. -/
def stepsWithin (min max step : Int64) : Nat := ((max.toInt - min.toInt) / step.toInt).toNat

/-- The integer is reached from the minimum in as many steps, and words hold their number, their
length and the sum. -/
def Reached (min step : Int64) (slot : Nat) (n : Int64) : Prop :=
  ∃ pick length : Int64, pick.toInt = slot ∧ Integer.mul? pick step = some length ∧
    Integer.add? min length = some n

/-! ## Slots -/

/-- Whatever is no range is refused. -/
theorem lastSlot_of_not_isRange (unfit : ¬ IsRange min max step) :
    ∃ fault, lastSlot e min max step = .error (.invalidAttribute e.tag "max" fault) := by
  by_cases empty : max.toInt < min.toInt ∨ step.toInt < 1
  · exact ⟨.emptyIntegers min max step, if_pos empty⟩
  · have wide : Integer.sub? max min = none :=
      Integer.ofInt?_eq_none_iff.2 fun width => unfit ⟨by omega, by omega, width⟩
    refine ⟨.wideIntegers min max, (if_neg empty).trans ?_⟩
    rw [wide]
    rfl

namespace IsRange

variable (range : IsRange min max step)
include range

theorem lastSlot_eq : lastSlot e min max step = .ok (stepsWithin min max step) := by
  have upward := range.upward
  have ordered := range.ordered
  obtain ⟨width, exact⟩ := Integer.exists_toInt_eq range.width
  have difference : Integer.sub? max min = some width := Integer.ofInt?_eq_some_iff.2 exact
  refine (if_neg (by omega)).trans ?_
  rw [difference]
  dsimp only
  rw [exact]
  rfl

/-- The slots are those to which the steps fit in the width of the range. -/
theorem le_stepsWithin_iff {slot : Nat} :
    slot ≤ stepsWithin min max step ↔ slot * step.toInt ≤ max.toInt - min.toInt := by
  have upward := range.upward
  have ordered := range.ordered
  have whole : 0 ≤ (max.toInt - min.toInt) / step.toInt := Int.ediv_nonneg (by omega) (by omega)
  rw [← Int.le_ediv_iff_mul_le (by omega), stepsWithin]
  omega

section Slot

variable {slot : Nat} (there : slot ≤ stepsWithin min max step)
include there

/-- The steps to a slot are no fewer than the slots that are passed, and lead no further than the
maximum. -/
theorem steps_bounds : (slot : Int) ≤ slot * step.toInt ∧
    slot * step.toInt ≤ max.toInt - min.toInt :=
  ⟨le_mul_of_one_le_right (Int.natCast_nonneg slot) range.upward, range.le_stepsWithin_iff.1 there⟩

theorem toInt_integerInSlot :
    (integerInSlot min step slot).toInt = min.toInt + slot * step.toInt := by
  obtain ⟨passed, within⟩ := range.steps_bounds there
  have low := (Integer.bounds min).1
  have high := (Integer.bounds max).2
  exact Integer.toInt_ofInt (by omega) (by omega)

/-- Every slot holds an integer of the range. -/
theorem inSteps_integerInSlot : InSteps min max step (integerInSlot min step slot) := by
  obtain ⟨passed, within⟩ := range.steps_bounds there
  have value := range.toInt_integerInSlot there
  refine ⟨by omega, by omega, slot, ?_⟩
  rw [value, mul_comm step.toInt]
  omega

/-- Words hold all that is computed on the way to the integer in a slot. -/
theorem reached_integerInSlot : Reached min step slot (integerInSlot min step slot) := by
  obtain ⟨passed, within⟩ := range.steps_bounds there
  have width := range.width.2
  have least : Integer.least ≤ 0 := by decide
  obtain ⟨pick, counted⟩ : ∃ pick : Int64, pick.toInt = slot :=
    Integer.exists_toInt_eq ⟨by omega, by omega⟩
  obtain ⟨length, taken⟩ : ∃ length : Int64, length.toInt = slot * step.toInt :=
    Integer.exists_toInt_eq ⟨by omega, by omega⟩
  refine ⟨pick, length, counted, Integer.ofInt?_eq_some_iff.2 ?_, Integer.ofInt?_eq_some_iff.2 ?_⟩
  · rw [taken, counted]
  · rw [range.toInt_integerInSlot there, taken]

end Slot

/-- Every integer of the range, whole steps above the minimum, is in one slot and no other. -/
theorem existsUnique_slot {n : Int64} (h : InSteps min max step n) :
    ∃! slot, slot ≤ stepsWithin min max step ∧ integerInSlot min step slot = n := by
  have upward := range.upward
  obtain ⟨low, high, k, steps⟩ := h
  -- The integer is not below the minimum, so the steps to it are counted from zero.
  have forward : 0 ≤ k := (mul_nonneg_iff_of_pos_left (by omega)).1 (by omega : 0 ≤ step.toInt * k)
  lift k to Nat using forward
  have there : k ≤ stepsWithin min max step := by
    rw [range.le_stepsWithin_iff, mul_comm]
    omega
  refine ⟨k, ⟨there, ?_⟩, ?_⟩
  · rw [← Int64.toInt_inj, range.toInt_integerInSlot there, mul_comm]
    omega
  · rintro slot ⟨there', rfl⟩
    rw [range.toInt_integerInSlot there'] at steps
    have same : (slot : Int) * step.toInt = k * step.toInt := by
      rw [mul_comm (k : Int)]
      omega
    exact_mod_cast mul_right_cancel₀ (by omega : step.toInt ≠ 0) same

end IsRange

/-! ## The choice -/

theorem randomInteger_eq (asks : AsksFor e s min max step) (chance : Chance) :
    randomInteger chance e s = (lastSlot e min max step >>= fun last =>
      .ok (some (.integer (integerInSlot min step (chance.slot last).val)))) := by
  obtain ⟨least, first, rfl⟩ := asks.minimum
  obtain ⟨given, third, rfl⟩ := asks.step
  rw [randomInteger, first, asks.maximum, third]
  rfl

/-- A range is refused unless it goes upwards and a word holds its width. Of any other one, chance
picks a slot, and the integer in it is computed in words. Each slot holds an integer in the range,
whole steps above the minimum, and each such integer is in exactly one slot. -/
theorem randomInteger_slots (asks : AsksFor e s min max step) :
    (IsRange min max step →
      (∀ chance : Chance, randomInteger chance e s = .ok (some (.integer
        (integerInSlot min step (chance.slot (stepsWithin min max step)).val)))) ∧
      (∀ slot ≤ stepsWithin min max step, Reached min step slot (integerInSlot min step slot) ∧
        InSteps min max step (integerInSlot min step slot)) ∧
      ∀ n, InSteps min max step n →
        ∃! slot, slot ≤ stepsWithin min max step ∧ integerInSlot min step slot = n) ∧
    (¬ IsRange min max step → ∀ chance : Chance, ∃ fault,
      randomInteger chance e s = .error (.invalidAttribute e.tag "max" fault)) := by
  refine ⟨fun range => ⟨fun chance => ?_, fun slot there => ?_, fun n => ?_⟩,
    fun unfit chance => ?_⟩
  · rw [randomInteger_eq asks, range.lastSlot_eq]
    rfl
  · exact ⟨range.reached_integerInSlot there, range.inSteps_integerInSlot there⟩
  · exact range.existsUnique_slot
  · obtain ⟨fault, refused⟩ := lastSlot_of_not_isRange (e := e) unfit
    refine ⟨fault, ?_⟩
    rw [randomInteger_eq asks, refused]
    rfl

/-- The widest range with a step of half its width. Its maximum is the value of a variable. -/
def halvedNode : Expression :=
  ⟨"randomInteger", [("max", "\x7bMAX\x7d"), ("min", "-9223372036854775808"),
    ("step", "4611686018427387903")], [], none⟩

/-- A variable that holds minus one, next to which the widest range ends. -/
def minusOne : Session :=
  Session.empty.declare
    ⟨"MAX", .single, some .integer, .single (.integer (-1)), .null, .null, none, none, none⟩

/-- The last slot of the widest range holds its last integer but one, and a range that is wider by
one is refused. -/
theorem halved_range :
    let latest : Chance := ⟨Fin.last, 0⟩
    (AsksFor halvedNode minusOne Int64.minValue (-1) 4611686018427387903 ∧
      IsRange Int64.minValue (-1) 4611686018427387903 ∧
      randomInteger latest halvedNode minusOne = .ok (some (.integer (-2)))) ∧
    (¬ IsRange Int64.minValue 0 1 ∧ ∃ fault,
      randomInteger latest (rangeNode Int64.minValue 0 1) minusOne =
        .error (.invalidAttribute "randomInteger" "max" fault)) := by
  intro latest
  have asks : AsksFor halvedNode minusOne Int64.minValue (-1) 4611686018427387903 :=
    ⟨⟨_, rfl, rfl⟩, rfl, ⟨_, rfl, rfl⟩⟩
  have range : IsRange Int64.minValue (-1) 4611686018427387903 :=
    ⟨by decide, by decide, by decide⟩
  have wide : ¬ IsRange Int64.minValue 0 1 := fun range => absurd range.width (by decide)
  have last : integerInSlot Int64.minValue 4611686018427387903
      (stepsWithin Int64.minValue (-1) 4611686018427387903) = -2 := by decide
  refine ⟨⟨asks, range, ?_⟩, wide, ?_⟩
  · rw [((randomInteger_slots asks).1 range).1, Fin.val_last, last]
  · exact (randomInteger_slots (asksFor_rangeNode minusOne _ _ _)).2 wide latest

end Leaf

end ItemScoring
