import ItemScoring.Operator.Area
import ItemScoring.Operator.Basic
import ItemScoring.Text.LetterCase
/-!
# Leaf expressions

Leaf expressions are evaluated without evaluating children. A variable that is not declared yields
nothing, while a declared variable that holds nothing yields the NULL of its shape.
-/

set_option autoImplicit false

namespace ItemScoring.Leaf

/-- The identifier that an expression names. -/
def identifier (e : Expression) : Result String := Attribute.required e "identifier"

/-- The variable that an expression names, which has to be declared. -/
def declared (e : Expression) (s : Session) : Result Variable := do
  let id ← identifier e
  match s.find? id with
  | some v => return v
  | none => .error (.missingVariable id)

/-- The scalar that the literal denotes. -/
def baseValue (e : Expression) (_ : Session) : Result Operand := do
  let name ← Attribute.required e "baseType"
  let b ← Result.ofLoad (BaseType.ofName name)
  let s ← Result.ofLoad (Scalar.read b (e.literal.getD ""))
  return some (.single b s)

/-- What a part of a variable holds, in the shape of the variable. -/
def readVariable (part : Variable → Payload) (e : Expression) (s : Session) : Result Operand := do
  let id ← identifier e
  return (s.find? id).map fun v => v.shaped (part v)

/-- The current value of a variable. -/
def currentValue : Expression → Session → Result Operand := readVariable (·.value)

/-- The right response of a variable. -/
def correctResponse : Expression → Session → Result Operand := readVariable (·.correctResponse)

/-- The default value of a variable. -/
def defaultValue : Expression → Session → Result Operand := readVariable (·.defaultValue)

/-- Nothing. -/
def nothing (_ : Expression) (_ : Session) : Result Operand := .ok none

/-- A constant of mathematics. -/
def mathConstant (e : Expression) (_ : Session) : Result Operand := do
  let name ← Attribute.required e "name"
  if name = "pi" then return some (.float 3.141592653589793)
  else if name = "e" then return some (.float 2.718281828459045)
  else Attribute.invalid e "name" (.unknownConstant name)

/-- Add up scores: every entry counts once, at its first use, and where no entry applies the default
is added. The indices of the entries used so far are kept. -/
def addScores {α β : Type} (entries : List β) (applies : α → β → Bool) (score : β → Float)
    (defaultScore : Float) (used : List Nat) (total : Float) : List α → Float
  | [] => total
  | a :: rest =>
    match entries.findIdx? (applies a) with
    | none => addScores entries applies score defaultScore used (total + defaultScore) rest
    | some k =>
      if used.contains k then addScores entries applies score defaultScore used total rest
      else
        addScores entries applies score defaultScore (k :: used)
          (total + (entries[k]?).elim 0 score) rest

/-- Whether an entry of a mapping applies to a scalar. -/
def keyApplies (s : Scalar) (entry : MapEntry) : Bool :=
  match entry.caseSensitive, entry.key.text?, s.text? with
  | false, some a, some b => Text.lower a == Text.lower b
  | _, _, _ => entry.key.agrees s

/-- The scalars that agree with none of those before them. -/
def distinct (sofar : List Scalar) : List Scalar → List Scalar
  | [] => sofar.reverse
  | s :: rest =>
    if sofar.any (·.agrees s) then distinct sofar rest else distinct (s :: sofar) rest

/-- The score of a payload: the scores of its distinct scalars, in the order of the normal form. -/
def mapScalars (m : Mapping) (c : Cardinality) (b : Option BaseType) (p : Payload) : Float :=
  addScores m.entries keyApplies (·.mappedValue) m.range.defaultValue [] 0
    (distinct [] (p.normalized c b))

/-- The score that the mapping of a variable gives to what the variable holds. -/
def mapResponse (e : Expression) (s : Session) : Result Operand := do
  let v ← declared e s
  match v.mapping with
  | none => .error (.type (.noMapping v.identifier))
  | some m =>
    let score :=
      if v.value.isNull then m.range.defaultValue
      else mapScalars m v.cardinality v.baseType v.value
    return some (.float (m.range.clamp score))

/-- The coordinates of a point. -/
def pointOf? : Scalar → Option PlanePoint
  | .point x y => some (Area.planePoint x y)
  | _ => none

/-- The score of points, in the order in which they are held. -/
def mapPoints (m : AreaMapping) (ss : List Scalar) : Float :=
  addScores m.entries (fun p entry => entry.shape.contains p) (·.mappedValue)
    m.range.defaultValue [] 0 (ss.filterMap pointOf?)

/-- The score that the area mapping of a variable gives to the points that the variable holds. -/
def mapResponsePoint (e : Expression) (s : Session) : Result Operand := do
  let v ← declared e s
  match v.areaMapping with
  | none => .error (.type (.noAreaMapping v.identifier))
  | some m =>
    if v.baseType ≠ some .point then .error (.type (.noPoints v.identifier))
    else
      let score :=
        if v.value.isNull then m.range.defaultValue else mapPoints m v.value.scalars
      return some (.float (m.range.clamp score))

/-- The integer in a slot of a range, counted from zero. -/
def integerInSlot (min step : Int64) (slot : Nat) : Int64 :=
  Int64.ofInt (min.toInt + slot * step.toInt)

/-- The last slot of a range of integers with a step. -/
def lastSlot (e : Expression) (min max step : Int64) : Result Nat :=
  if max.toInt < min.toInt ∨ step.toInt < 1 then
    Attribute.invalid e "max" (.emptyIntegers min max step)
  else
    match Integer.sub? max min with
    | none => Attribute.invalid e "max" (.wideIntegers min max)
    | some width => .ok (width.toInt / step.toInt).toNat

/-- An integer from a range, as chance picks it. -/
def randomInteger (chance : Chance) (e : Expression) (s : Session) : Result Operand := do
  let min ← Attribute.integer e s "min"
  let min := min.getD 0
  let max ← Attribute.integer e s "max"
  let max ← Attribute.require e "max" max
  let step ← Attribute.integer e s "step"
  let step := step.getD 1
  let last ← lastSlot e min max step
  return some (.integer (integerInSlot min step (chance.slot last).val))

/-- A number from a range, as chance picks it. -/
def randomFloat (chance : Chance) (e : Expression) (s : Session) : Result Operand := do
  let min ← Attribute.float e s "min"
  let min := min.getD 0
  let max ← Attribute.float e s "max"
  let max ← Attribute.require e "max" max
  if !min.isFinite || !max.isFinite || min > max then
    Attribute.invalid e "max" (.emptyNumbers min max)
  else if !(max - min).isFinite then Attribute.invalid e "max" (.wideNumbers min max)
  else if min == max then return some (.float min)
  else return some (.float (min + chance.fraction * (max - min)))

end ItemScoring.Leaf
