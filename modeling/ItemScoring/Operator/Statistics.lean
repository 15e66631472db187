import ItemScoring.Operator.Basic
/-!
# Statistics

Statistics of the finite numbers of a collection, selected by name. The statistics of a sample need
two numbers, the others one; with fewer the result is NULL.
-/

set_option autoImplicit false

namespace ItemScoring.Statistics

/-- The sum of numbers from left to right. -/
def total (xs : List Float) : Float := xs.foldl (fun x y => x + y) (-0.0)

/-- A count as a floating-point number. -/
def count (n : Nat) : Float := Binary64.ofInteger n

/-- The mean of numbers. -/
def mean (xs : List Float) : Float := total xs / count xs.length

/-- The sum of the squares of the distances to the mean. -/
def squaredDeviations (xs : List Float) : Float :=
  let m := mean xs
  total (xs.map fun x => (x - m) * (x - m))

/-- A statistic: how many numbers it needs, and its value. -/
structure Statistic where
  /-- The least count of numbers. -/
  required : Nat
  /-- The value. -/
  value : List Float → Float

/-- The statistics that have a name. -/
def statistics : List (String × Statistic) :=
  [("mean", ⟨1, mean⟩),
    ("sampleVariance", ⟨2, fun xs => squaredDeviations xs / count (xs.length - 1)⟩),
    ("sampleSD", ⟨2, fun xs => (squaredDeviations xs / count (xs.length - 1)).sqrt⟩),
    ("popVariance", ⟨1, fun xs => squaredDeviations xs / count xs.length⟩),
    ("popSD", ⟨1, fun xs => (squaredDeviations xs / count xs.length).sqrt⟩)]

/-- The statistic that the attribute `name` selects. -/
def statsOperator (i : Invocation) : Result Operand := do
  let name ← Attribute.required i.expression "name"
  match statistics.lookup name with
  | none => Attribute.invalid i.expression "name" (.unknownFunction name)
  | some statistic =>
    if i.anyNull then return .null .float
    else
      let xs := (Quantity.ofOperands i.operands).map Quantity.toFloat
      if xs.length < statistic.required then return .null .float
      else return .finite (statistic.value xs)

end ItemScoring.Statistics
