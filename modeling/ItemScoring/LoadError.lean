import ItemScoring.BaseType
import ItemScoring.Cardinality
import ItemScoring.Numeric.Integer
/-!
# Errors in data from the host

What can be wrong with declarations, expressions and rules that a host hands over, as causes. The
wording of each cause is given once, by its `message`.
-/

set_option autoImplicit false

namespace ItemScoring

/-- Why a text or a JSON value is no scalar of a base type. -/
inductive CastFault where
  /-- The value is `null`. -/
  | null
  /-- The value is of a kind from which no scalar is made. -/
  | kind
  /-- The text is no truth value. -/
  | notTruthValue
  /-- The number is no truth value. -/
  | notZeroOrOne
  /-- The text is not made of two words. -/
  | notTwoWords
  /-- A coordinate is no integer. -/
  | coordinate (fault : Integer.Fault)
  /-- The text is neither a duration nor a number of seconds. -/
  | notDuration
  /-- The number of seconds is out of range. -/
  | durationRange
  /-- A duration has no component. -/
  | durationEmpty
  /-- A designator has no number in front of it. -/
  | durationNumber
  /-- A letter is no designator, or not one for its place. -/
  | durationDesignator
  /-- A duration ends in a number, or before its first component. -/
  | durationIncomplete
  /-- No component follows the mark of the time of day. -/
  | durationTime
  deriving DecidableEq, Repr

/-- The wording of a fault. -/
def CastFault.message : CastFault → String
  | .null => "NULL has no scalar form"
  | .kind => "unsupported JSON kind"
  | .notTruthValue => "expected 'true' or 'false'"
  | .notZeroOrOne => "expected 0 or 1"
  | .notTwoWords => "expected two space-separated components"
  | .coordinate fault => fault.message
  | .notDuration => "not ISO-8601 or seconds"
  | .durationRange => "duration out of range"
  | .durationEmpty => "empty duration"
  | .durationNumber => "missing number before designator"
  | .durationDesignator => "unexpected designator"
  | .durationIncomplete => "incomplete duration"
  | .durationTime => "time designator without a time component"

/-- Why a name and a list of coordinates are no shape. -/
inductive ShapeFault where
  /-- No shape has this name. -/
  | unknown (name : String)
  /-- A coordinate is no number. -/
  | coordinate (text : String)
  /-- The shape needs other coordinates. -/
  | count (name expected coordinates : String)
  deriving DecidableEq, Repr

/-- The wording of a fault. -/
def ShapeFault.message : ShapeFault → String
  | .unknown name => "unknown shape '" ++ name ++ "'"
  | .coordinate text => "invalid shape coordinate '" ++ text ++ "'"
  | .count name expected coordinates =>
    "shape '" ++ name ++ "' expects " ++ expected ++ ", got coords '" ++ coordinates ++ "'"

/-- Why JSON data is not in the form that is asked for. -/
inductive Malformation where
  /-- No cardinality has this name. -/
  | cardinality (name : String)
  /-- No base type has this name. -/
  | baseType (name : String)
  /-- A record is not given as an object. -/
  | record
  /-- A field of a record is neither a scalar nor a typed value. -/
  | recordField
  /-- A value of this cardinality has no base type. -/
  | untypedValue (c : Cardinality)
  /-- A variable has no base type. -/
  | untypedVariable (identifier : String)
  /-- A field that has to be a string is missing or something else. -/
  | stringField (name : String)
  /-- A field that has to be an array is missing or something else. -/
  | arrayField (name : String)
  /-- A field that has to be a number is a text that denotes none. -/
  | numberText (name text : String)
  /-- A field that has to be a number is something else. -/
  | numberKind (name json : String)
  /-- A mapping belongs to a variable without a base type. -/
  | untypedMapping
  /-- An entry of a mapping has no key. -/
  | entryKey
  /-- An entry of a mapping has no mapped value. -/
  | entryValue
  /-- An entry of an area mapping has no mapped value. -/
  | areaValue
  /-- A lookup table belongs to a variable without a base type. -/
  | untypedTable
  /-- No kind of lookup table has this name. -/
  | tableKind (name : String)
  /-- An entry of a lookup table has no target. -/
  | tableTarget
  /-- The source of an entry of a match table is no integer. -/
  | tableInteger
  /-- An entry of an interpolation table has no source. -/
  | tableSource
  /-- A shape is faulty. -/
  | shape (fault : ShapeFault)
  /-- The variables of a session are not given as an array. -/
  | session
  /-- An expression is not in the form of an expression. -/
  | expression
  /-- A field that has to be an expression is missing. -/
  | expressionField (name : String)
  /-- Rules are not given as an array. -/
  | ruleList
  /-- A condition has no first branch. -/
  | firstBranch
  /-- The further branches of a condition are not given as an array. -/
  | furtherBranches
  /-- A configuration is not in the form of a configuration. -/
  | configuration
  deriving DecidableEq, Repr

/-- The wording of a cause. Those about expressions and configurations end where a description of
the place would follow. -/
def Malformation.message : Malformation → String
  | .cardinality name => "unknown cardinality '" ++ name ++ "'"
  | .baseType name => "unknown baseType '" ++ name ++ "'"
  | .record => "record value must be a JSON object"
  | .recordField => "record field must be a scalar or a typed value object"
  | .untypedValue c => c.name ++ " value requires a baseType"
  | .untypedVariable identifier => "variable '" ++ identifier ++ "' missing 'baseType'"
  | .stringField name => "missing string field '" ++ name ++ "'"
  | .arrayField name => "missing array field '" ++ name ++ "'"
  | .numberText name text => "field '" ++ name ++ "' is not a number: '" ++ text ++ "'"
  | .numberKind name json => "field '" ++ name ++ "' is not a number: " ++ json
  | .untypedMapping => "mapping requires a variable baseType"
  | .entryKey => "mapEntry missing 'mapKey'"
  | .entryValue => "mapEntry missing 'mappedValue'"
  | .areaValue => "areaMapEntry missing 'mappedValue'"
  | .untypedTable => "lookupTable requires a variable baseType"
  | .tableKind name => "unknown lookup table kind '" ++ name ++ "'"
  | .tableTarget => "lookup table entry missing 'targetValue'"
  | .tableInteger => "matchTableEntry 'sourceValue' must be an integer"
  | .tableSource => "interpolationTableEntry missing 'sourceValue'"
  | .shape fault => fault.message
  | .session => "session state must be an array of variable declarations"
  | .expression => "invalid expression node: "
  | .expressionField name => "missing expression field '" ++ name ++ "'"
  | .ruleList => "rule list must be an array"
  | .firstBranch => "responseCondition missing 'responseIf'"
  | .furtherBranches => "'responseElseIf' must be an array"
  | .configuration => "engine config: "

/-- What can be wrong with data from the host. -/
inductive LoadError where
  /-- A literal is no scalar of its base type. -/
  | cast (baseType : BaseType) (raw : String) (fault : CastFault)
  /-- JSON data is not in the form that is asked for. -/
  | malformed (cause : Malformation)
  /-- No rule has this tag. -/
  | unknownRule (tag : String)
  deriving DecidableEq, Repr

/-- The wording of malformed data, alone or inside another message. -/
def malformedMessage (cause : Malformation) : String :=
  "deserialization error: " ++ cause.message

/-- The wording of an error. -/
def LoadError.message : LoadError → String
  | .cast baseType raw fault =>
    "cannot cast '" ++ raw ++ "' to " ++ baseType.name ++ ": " ++ fault.message
  | .malformed cause => malformedMessage cause
  | .unknownRule tag => "unknown response rule: " ++ tag

/-- The cardinality with the given name. -/
def Cardinality.ofName (name : String) : Except LoadError Cardinality :=
  match ofName? name with
  | some c => .ok c
  | none => .error (.malformed (.cardinality name))

/-- The base type with the given name. -/
def BaseType.ofName (name : String) : Except LoadError BaseType :=
  match ofName? name with
  | some b => .ok b
  | none => .error (.malformed (.baseType name))

end ItemScoring
