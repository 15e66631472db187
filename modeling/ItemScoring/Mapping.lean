import ItemScoring.Json.Printer
import ItemScoring.Scalar.Cast
import ItemScoring.Shape
/-!
# Mappings and lookup tables

A mapping gives scores to scalars, an area mapping gives scores to points by the area they fall
into, and a lookup table turns a number into a scalar. All three belong to a variable and are read
from its declaration.
-/

set_option autoImplicit false

namespace ItemScoring

/-- The bounds of a score and what is scored where no entry applies. -/
structure ScoreRange where
  /-- No score is below. -/
  lowerBound : Option Float
  /-- No score is above. -/
  upperBound : Option Float
  /-- The score where no entry applies. -/
  defaultValue : Float

/-- Move a score into the bounds; the upper bound is applied last. -/
def ScoreRange.clamp (range : ScoreRange) (x : Float) : Float :=
  let x := range.lowerBound.elim x (Binary64.greatest x)
  range.upperBound.elim x (Binary64.least x)

/-- One entry of a mapping. -/
structure MapEntry where
  /-- The scalar that is scored. -/
  key : Scalar
  /-- Its score. -/
  mappedValue : Float
  /-- Whether the case of letters counts. -/
  caseSensitive : Bool

/-- Scores for scalars. -/
structure Mapping where
  /-- The bounds and the default. -/
  range : ScoreRange
  /-- The entries; the first that applies counts. -/
  entries : List MapEntry

/-- One entry of an area mapping. -/
structure AreaEntry where
  /-- The area that is scored. -/
  shape : Shape
  /-- Its score. -/
  mappedValue : Float

/-- Scores for points. -/
structure AreaMapping where
  /-- The bounds and the default. -/
  range : ScoreRange
  /-- The entries; the first that applies counts. -/
  entries : List AreaEntry

/-- One entry of a match table. -/
structure MatchEntry where
  /-- The number that is looked up. -/
  source : Int64
  /-- What it is turned into. -/
  target : Scalar

/-- One entry of an interpolation table. -/
structure InterpolationEntry where
  /-- The least number that is looked up here. -/
  source : Float
  /-- Whether that number itself belongs to the entry. -/
  includeBoundary : Bool
  /-- What the numbers are turned into. -/
  target : Scalar

/-- A table that turns numbers into scalars. -/
inductive LookupTable where
  /-- Numbers that are equal to the source of an entry. -/
  | exact (defaultValue : Option Scalar) (entries : List MatchEntry)
  /-- Numbers from the source of an entry on. -/
  | interpolation (defaultValue : Option Scalar) (entries : List InterpolationEntry)

/-- What a number is turned into: the target of the first entry that applies, or else the
default. -/
def LookupTable.lookup (table : LookupTable) (source : Option Float) : Option Scalar :=
  match table with
  | .exact defaultValue entries =>
    match source.bind fun x =>
        entries.find? fun e => Binary64.ofInteger e.source.toInt == x with
    | some entry => some entry.target
    | none => defaultValue
  | .interpolation defaultValue entries =>
    match source.bind fun x =>
        entries.find? fun e => if e.includeBoundary then x ≥ e.source else x > e.source with
    | some entry => some entry.target
    | none => defaultValue

namespace Json

/-- A member that has to be a string. -/
def stringField (j : Json) (name : String) : Except LoadError String :=
  match (j.member? name).bind string? with
  | some s => .ok s
  | none => .error (.malformed (.stringField name))

/-- A member that has to be an array. -/
def arrayField (j : Json) (name : String) : Except LoadError (List Json) :=
  match (j.member? name).bind items? with
  | some items => .ok items
  | none => .error (.malformed (.arrayField name))

/-- A member that may be a number or the text of one; none when it is missing or `null`. -/
def numberField (j : Json) (name : String) : Except LoadError (Option Float) :=
  match j.member? name with
  | none => .ok none
  | some .null => .ok none
  | some (.number n) => .ok (some n.toFloat)
  | some (.string s) =>
    match Scalar.readFloat? s with
    | some x => .ok (some x)
    | none => .error (.malformed (.numberText name s))
  | some other => .error (.malformed (.numberKind name other.compact))

/-- A member that has to be a number or the text of one, with the cause when it is missing. -/
def numberFieldOr (j : Json) (name : String) (missing : Malformation) : Except LoadError Float := do
  match ← j.numberField name with
  | some x => return x
  | none => .error (.malformed missing)

/-- A member that is a truth value, and true when it is missing or something else. -/
def flagField (j : Json) (name : String) : Bool := ((j.member? name).bind bool?).getD true

end Json

/-- The bounds and the default of a mapping. -/
def ScoreRange.ofJson (j : Json) : Except LoadError ScoreRange := do
  let lowerBound ← j.numberField "lowerBound"
  let upperBound ← j.numberField "upperBound"
  let defaultValue ← j.numberField "defaultValue"
  return { lowerBound, upperBound, defaultValue := defaultValue.getD 0 }

/-- An entry of a mapping. The score is read before the key. -/
def MapEntry.ofJson (b : BaseType) (j : Json) : Except LoadError MapEntry := do
  match j.member? "mapKey" with
  | none => .error (.malformed .entryKey)
  | some key =>
    let mappedValue ← j.numberFieldOr "mappedValue" .entryValue
    let key ← Scalar.ofJson b key
    return { key, mappedValue, caseSensitive := j.flagField "caseSensitive" }

/-- A mapping of a variable. The entries are read before the bounds. -/
def Mapping.ofJson (baseType : Option BaseType) (j : Json) : Except LoadError Mapping :=
  match baseType with
  | none => .error (.malformed .untypedMapping)
  | some b => do
    let entries ← (← j.arrayField "entries").mapM (MapEntry.ofJson b)
    let range ← ScoreRange.ofJson j
    return { range, entries }

/-- The shape with the given name and coordinates in a declaration. -/
def Shape.load (name coords : String) : Except LoadError Shape :=
  match Shape.ofCoordinates name coords with
  | .ok shape => .ok shape
  | .error fault => .error (.malformed (.shape fault))

/-- An entry of an area mapping. The score is read before the shape. -/
def AreaEntry.ofJson (j : Json) : Except LoadError AreaEntry := do
  let name ← j.stringField "shape"
  let coords := ((j.member? "coords").bind Json.string?).getD ""
  let mappedValue ← j.numberFieldOr "mappedValue" .areaValue
  let shape ← Shape.load name coords
  return { shape, mappedValue }

/-- An area mapping of a variable. -/
def AreaMapping.ofJson (j : Json) : Except LoadError AreaMapping := do
  let entries ← (← j.arrayField "entries").mapM AreaEntry.ofJson
  let range ← ScoreRange.ofJson j
  return { range, entries }

/-- The target of an entry of a lookup table. -/
def LookupTable.targetOfJson (b : BaseType) (j : Json) : Except LoadError Scalar :=
  match j.member? "targetValue" with
  | none => .error (.malformed .tableTarget)
  | some raw => Scalar.ofJson b raw

/-- An entry of a match table. -/
def MatchEntry.ofJson (b : BaseType) (j : Json) : Except LoadError MatchEntry :=
  match (j.member? "sourceValue").bind Json.int64? with
  | none => .error (.malformed .tableInteger)
  | some source => do
    let target ← LookupTable.targetOfJson b j
    return { source, target }

/-- An entry of an interpolation table. -/
def InterpolationEntry.ofJson (b : BaseType) (j : Json) : Except LoadError InterpolationEntry := do
  let source ← j.numberFieldOr "sourceValue" .tableSource
  let target ← LookupTable.targetOfJson b j
  return { source, includeBoundary := j.flagField "includeBoundary", target }

/-- A lookup table of a variable. The default is read before the kind. -/
def LookupTable.ofJson (baseType : Option BaseType) (j : Json) : Except LoadError LookupTable :=
  match baseType with
  | none => .error (.malformed .untypedTable)
  | some b => do
    let defaultValue ←
      match j.member? "defaultValue" with
      | none => pure none
      | some .null => pure none
      | some raw => some <$> Scalar.ofJson b raw
    let kind ← j.stringField "kind"
    if kind = "matchTable" then
      let entries ← (← j.arrayField "entries").mapM (MatchEntry.ofJson b)
      return .exact defaultValue entries
    else if kind = "interpolationTable" then
      let entries ← (← j.arrayField "entries").mapM (InterpolationEntry.ofJson b)
      return .interpolation defaultValue entries
    else .error (.malformed (.tableKind kind))

end ItemScoring
