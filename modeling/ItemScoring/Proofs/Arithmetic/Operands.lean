import ItemScoring.Operator.Arithmetic
import ItemScoring.Proofs.Order.Scalar
import ItemScoring.Proofs.Typing.Casting

/-!
# Integers among operands

An operand that is declared an integer may hold, instead of an integer, what stands for a number
that could not be read. Arithmetic leaves it out and takes the integers of one operand after the
other: those of a sequence as they stand, and those of a collection in increasing order.
-/

set_option autoImplicit false

namespace ItemScoring

/-- A value that arithmetic on integers works on: an integer, a collection or a sequence, in which
what is no number may stand for an integer. -/
structure Value.OfIntegers (v : Value) : Prop where
  baseType : v.baseType = some .integer
  filled : v.isNull = false
  cardinality : v.cardinality ≠ .record
  shape : v.payload.HasShape v.cardinality
  scalars : ∀ s ∈ v.scalars, s.StoredAs .integer

theorem Value.integer_ofIntegers (n : Int64) : (integer n).OfIntegers where
  baseType := rfl
  filled := rfl
  cardinality := nofun
  shape := rfl
  scalars s mem := by
    cases List.mem_singleton.1 mem
    exact .integer n

theorem Value.container_ofIntegers {c : Cardinality} (declared : c.isContainer = true)
    {ss : List Scalar} (nonempty : ss ≠ []) (stored : ∀ s ∈ ss, s.StoredAs .integer) :
    (container c .integer ss).OfIntegers := by
  obtain ⟨s, rest, rfl⟩ := List.exists_cons_of_ne_nil nonempty
  refine ⟨rfl, rfl, ?_, declared, stored⟩
  intro record
  have collection : c = .record := record
  rw [collection] at declared
  cases declared

/-- Integers in increasing order. -/
def Integer.sort (ns : List Int64) : List Int64 := ns.mergeSort fun m n => m.toInt ≤ n.toInt

/-- The integers of a value, in increasing order when it is a collection. -/
def Value.integers (v : Value) : List Int64 :=
  let ns := v.scalars.filterMap Scalar.int64?
  if v.cardinality = .multiple then Integer.sort ns else ns

theorem Integer.pairwise_sort (ns : List Int64) :
    (sort ns).Pairwise fun m n => m.toInt ≤ n.toInt := by
  have sorted := @List.pairwise_mergeSort Int64 (fun m n => m.toInt ≤ n.toInt)
    (by simp only [decide_eq_true_eq]; omega)
    (by simp only [Bool.or_eq_true, decide_eq_true_eq]; omega) ns
  unfold sort
  simpa only [decide_eq_true_eq] using sorted

/-! ## Scalars that are stored as integers -/

namespace Scalar

/-- Of what is stored as an integer, arithmetic takes the integers. -/
theorem ofScalar?_of_storedAs {s : Scalar} (h : s.StoredAs .integer) :
    Quantity.ofScalar? s = s.int64?.map .integer := by
  cases h with
  | integer n => rfl
  | noInteger notNumber =>
      have infinite : (0 / 0 : Float).isFinite = false := by decide +kernel
      simp [Quantity.ofScalar?, int64?, Binary64.eq_of_isNaN notNumber, infinite]

theorem filterMap_ofScalar? {ss : List Scalar} (h : ∀ s ∈ ss, s.StoredAs .integer) :
    ss.filterMap Quantity.ofScalar? = (ss.filterMap int64?).map .integer := by
  rw [List.map_filterMap]
  exact List.filterMap_congr fun s hs => ofScalar?_of_storedAs (h s hs)

/-- It makes no difference whether a collection is sorted before its integers are taken, or they
are sorted afterwards. -/
theorem filterMap_int64?_sort (ss : List Scalar) :
    (sort ss).filterMap int64? = Integer.sort (ss.filterMap int64?) := by
  have perm : ((sort ss).filterMap int64?).Perm (Integer.sort (ss.filterMap int64?)) :=
    ((List.mergeSort_perm _ _).filterMap _).trans (List.mergeSort_perm _ _).symm
  have increasing : ((sort ss).filterMap int64?).Pairwise fun m n => m.toInt ≤ n.toInt := by
    refine List.Pairwise.filterMap _ ?_ (pairwise_sort ss)
    intro s t before m hm n hn
    cases s with
    | integer m' =>
        cases hm
        cases t with
        | integer n' =>
            cases hn
            exact Std.isLE_compare.1 before
        | _ => cases hn
    | _ => cases hm
  refine List.Perm.eq_of_pairwise ?_ increasing (Integer.pairwise_sort _) perm
  intro m n _ _ le ge
  exact Int64.toInt_inj.1 (Int.le_antisymm le ge)

end Scalar

/-! ## Values and operands -/

variable {v : Value} {vs : List Value}

/-- The numbers that arithmetic finds in a payload of the declared kind are its integers. -/
theorem Payload.filterMap_normalized {c : Cardinality} {p : Payload}
    (stored : ∀ s ∈ p.scalars, s.StoredAs .integer) :
    (p.normalized c (some .integer)).filterMap Quantity.ofScalar? =
      (Value.integers (.mk c (some .integer) p)).map .integer := by
  have read : p.normalized c (some .integer) =
      if c = .multiple then Scalar.sort p.scalars else p.scalars := by
    refine normalized_of_settledIn fun s hs => ?_
    exact (Scalar.fitsIn_some.2 (Scalar.storedAs_iff.1 (stored s hs)).1).settledIn
  have values : (Value.mk c (some .integer) p).scalars = p.scalars := rfl
  rw [read]
  unfold Value.integers
  simp only [values, Value.cardinality]
  split
  · rw [← Scalar.filterMap_int64?_sort]
    apply Scalar.filterMap_ofScalar?
    intro s hs
    exact stored s ((List.mergeSort_perm _ _).mem_iff.1 hs)
  · exact Scalar.filterMap_ofScalar? stored

theorem Value.OfIntegers.filterMap_stream (h : v.OfIntegers) :
    v.stream.filterMap (fun s => s.bind Quantity.ofScalar?) = v.integers.map .integer := by
  obtain ⟨c, b, p⟩ := v
  obtain rfl : b = some .integer := h.baseType
  have numbers := Payload.filterMap_normalized (c := c) h.scalars
  cases p with
  | null => cases h.filled
  | record fields => exact absurd h.shape h.cardinality
  | single s | list ss =>
      rw [Value.stream, Payload.stream, List.filterMap_map]
      exact numbers

/-- The numbers that arithmetic finds in operands are their integers. -/
theorem Quantity.ofOperands_of_integers (h : ∀ v ∈ vs, v.OfIntegers) :
    ofOperands (vs.map some) = (vs.flatMap Value.integers).map .integer := by
  unfold ofOperands Operand.stream
  induction vs with
  | nil => rfl
  | cons v rest ih =>
      obtain ⟨first, others⟩ := List.forall_mem_cons.1 h
      rw [List.map_cons, List.flatMap_cons, List.filterMap_append, ih others, List.flatMap_cons,
        List.map_append, ← first.filterMap_stream]
      rfl

theorem Quantity.integers?_map (ns : List Int64) : integers? (ns.map .integer) = some ns := by
  induction ns with
  | nil => rfl
  | cons n rest ih => simp [integers?, int64?, ih]

/-- An invocation without attributes, operands and variables. -/
def Invocation.bare (tag : String) : Invocation := ⟨⟨tag, [], [], none⟩, [], .empty⟩

/-- The same invocation with integers for its operands. -/
def Invocation.withIntegers (i : Invocation) (ns : List Int64) : Invocation :=
  { i with operands := (ns.map Value.integer).map some }

namespace Arithmetic

theorem flatMap_integers (ns : List Int64) :
    (ns.map Value.integer).flatMap Value.integers = ns := by
  induction ns with
  | nil => rfl
  | cons n rest ih =>
      rw [List.map_cons, List.flatMap_cons, ih]
      rfl

theorem forall_ofIntegers (ns : List Int64) : ∀ v ∈ ns.map Value.integer, v.OfIntegers := by
  intro v mem
  obtain ⟨n, -, rfl⟩ := List.mem_map.1 mem
  exact Value.integer_ofIntegers n

variable {i : Invocation} (operands : i.operands = vs.map some) (integers : ∀ v ∈ vs, v.OfIntegers)
include operands integers

theorem resultType_of_integers : resultType i = .integer := by
  have all : Operand.allInteger i.operands = true := by
    rw [operands, Operand.allInteger, List.all_map, List.all_eq_true]
    intro v hv
    have declared := (integers v hv).baseType
    simp [declared]
  unfold resultType
  rw [if_pos all]

/-- Arithmetic works on the integers of the operands, when there is one. -/
theorem numbers?_of_integers (there : vs.flatMap Value.integers ≠ []) :
    numbers? i = some ((vs.flatMap Value.integers).map .integer) := by
  have filled : i.anyNull = false := by
    rw [Invocation.anyNull, operands, Operand.anyNull, List.any_map, List.any_eq_false]
    intro v hv
    have filled := (integers v hv).filled
    simp [Operand.isNull, filled]
  obtain ⟨n, ns, some⟩ := List.exists_cons_of_ne_nil there
  unfold numbers?
  rw [filled, operands, Quantity.ofOperands_of_integers integers, some]
  rfl

/-- What is made of the magnitudes of integers is answered when it is in range. -/
theorem onMagnitudes_of_integers (there : vs.flatMap Value.integers ≠ [])
    (result : List Nat → Option Nat) :
    onMagnitudes result i =
      match (result ((vs.flatMap Value.integers).map fun n => n.toInt.natAbs)).bind
        fun m => Integer.ofInt? m with
      | some n => .ok (some (.integer n))
      | none => .error (.overflow i.tag) := by
  unfold onMagnitudes
  rw [numbers?_of_integers operands integers there, Option.bind_some, Quantity.integers?_map]
  rfl

/-- When the order of magnitudes makes no difference to what is made of them, neither does the order
of the operands. -/
theorem onMagnitudes_perm (there : vs.flatMap Value.integers ≠ []) {result : List Nat → Option Nat}
    (unordered : ∀ ms ns : List Nat, ms.Perm ns → result ms = result ns) {ws : List Value}
    (perm : ws.Perm vs) :
    onMagnitudes result { i with operands := ws.map some } = onMagnitudes result i := by
  have same : (ws.flatMap Value.integers).Perm (vs.flatMap Value.integers) := perm.flatMap_right _
  have stillThere : ws.flatMap Value.integers ≠ [] := by
    intro none
    rw [none] at same
    exact there same.symm.eq_nil
  have first := onMagnitudes_of_integers (i := { i with operands := ws.map some }) rfl
    (fun v hv => integers v (perm.mem_iff.1 hv)) stillThere result
  have second := onMagnitudes_of_integers operands integers there result
  rw [first, second, unordered _ _ (same.map fun n => n.toInt.natAbs)]
  rfl

end Arithmetic

end ItemScoring
