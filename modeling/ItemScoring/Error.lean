import ItemScoring.LoadError
import ItemScoring.Numeric.Numeral
import ItemScoring.Numeric.Precision
/-!
# Errors of evaluation

What can stop an evaluation or a run of rules, as causes. The wording of each cause is given once,
by its `message`.
-/

set_option autoImplicit false

namespace ItemScoring

/-- The names of cardinalities in a message. -/
def Cardinality.names (cs : List Cardinality) : String := ", ".intercalate (cs.map name)

/-- The names of base types in a message. -/
def BaseType.names (bs : List BaseType) : String := ", ".intercalate (bs.map name)

/-- The title of a base type in messages about operands of different shapes. -/
def BaseType.title : BaseType → String
  | .identifier => "Identifier"
  | .boolean => "Boolean"
  | .integer => "Integer"
  | .float => "Float"
  | .string => "String"
  | .point => "Point"
  | .pair => "Pair"
  | .directedPair => "DirectedPair"
  | .duration => "Duration"
  | .file => "File"
  | .uri => "Uri"
  | .intOrIdentifier => "IntOrIdentifier"

/-- A base type or its absence in messages about operands of different shapes. -/
def BaseType.optionTitle : Option BaseType → String
  | some b => "Some(" ++ b.title ++ ")"
  | none => "None"

/-- How operands break the contract of an operator. -/
inductive ContractFault where
  /-- There are too few operands. -/
  | tooFew (least count : Nat)
  /-- There are too many operands. -/
  | tooMany (most count : Nat)
  /-- The operand at a position, counted from one, has a cardinality that is not accepted. -/
  | cardinality (position : Nat) (found : Cardinality) (accepted : List Cardinality)
  /-- The operand at a position, counted from one, has a base type that is not accepted. -/
  | baseType (position : Nat) (found : BaseType) (accepted : List BaseType)
  /-- Two operands have different base types. -/
  | mixedBaseTypes (a b : BaseType)
  /-- Two operands have different cardinalities. -/
  | mixedCardinalities (a b : Cardinality)
  /-- Two operands have different cardinalities or base types. -/
  | mixedShapes (a : Cardinality) (aType : Option BaseType) (b : Cardinality)
      (bType : Option BaseType)
  deriving DecidableEq, Repr

/-- The wording of a fault. -/
def ContractFault.message : ContractFault → String
  | .tooFew least count =>
    "expected at least " ++ Integer.text least ++ " operand(s), got " ++ Integer.text count
  | .tooMany most count =>
    "expected at most " ++ Integer.text most ++ " operand(s), got " ++ Integer.text count
  | .cardinality position found accepted =>
    "operand " ++ Integer.text position ++ " has cardinality " ++ found.name
      ++ ", expected one of [" ++ Cardinality.names accepted ++ "]"
  | .baseType position found accepted =>
    "operand " ++ Integer.text position ++ " has baseType " ++ found.name
      ++ ", expected one of [" ++ BaseType.names accepted ++ "]"
  | .mixedBaseTypes a b =>
    "operands must share a baseType, found " ++ a.name ++ " and " ++ b.name
  | .mixedCardinalities a b =>
    "operands must share cardinality, found " ++ a.name ++ " and " ++ b.name
  | .mixedShapes a aType b bType =>
    "operands must share cardinality and baseType, found " ++ a.name ++ " "
      ++ BaseType.optionTitle aType ++ " and " ++ b.name ++ " " ++ BaseType.optionTitle bType

/-- What is wrong with an attribute. -/
inductive AttributeFault where
  /-- It is missing. -/
  | required
  /-- It refers to a variable that is not declared or holds no single value. -/
  | reference (identifier : String)
  /-- It refers to a variable that holds a scalar of another kind. -/
  | referenceKind (identifier kind : String)
  /-- In a list, it refers to a variable that holds no number. -/
  | referenceNumber (identifier : String)
  /-- Its text is no integer. -/
  | notInteger (text : String)
  /-- Its text is no number. -/
  | notNumber (text : String)
  /-- Its text is no truth value. -/
  | notBoolean (text : String)
  /-- It names no constant. -/
  | unknownConstant (name : String)
  /-- It names no function. -/
  | unknownFunction (name : String)
  /-- It names no mode of comparison. -/
  | unknownTolerance (name : String)
  /-- It names no mode of rounding. -/
  | unknownRounding (name : String)
  /-- The count of figures makes no sense or is too great. -/
  | figures (count : Int64) (mode : RoundingMode)
  /-- It has to hold one value or two. -/
  | oneOrTwo
  /-- No integer is in a range with a step. -/
  | emptyIntegers (min max step : Int64)
  /-- A range of integers does not fit 64 bits. -/
  | wideIntegers (min max : Int64)
  /-- No number is in a range. -/
  | emptyNumbers (min max : Float)
  /-- A range of numbers has no finite width. -/
  | wideNumbers (min max : Float)
  /-- A repetition would be too long. -/
  | repeats (count : Int64) (most : Nat)
  /-- A shape is faulty. -/
  | shape (fault : ShapeFault)
  /-- It is no well-formed pattern. -/
  | pattern

/-- The wording of a fault. That of a pattern ends where a description of the place would follow. -/
def AttributeFault.message : AttributeFault → String
  | .required => "attribute is required"
  | .reference identifier => "referenced variable '" ++ identifier ++ "' has no single value"
  | .referenceKind identifier kind => "referenced variable '" ++ identifier ++ "' is " ++ kind
  | .referenceNumber identifier => "referenced variable '" ++ identifier ++ "' is not numeric"
  | .notInteger text => "'" ++ text ++ "' is not an integer"
  | .notNumber text => "'" ++ text ++ "' is not a number"
  | .notBoolean text => "'" ++ text ++ "' is not a boolean"
  | .unknownConstant name => "unknown constant '" ++ name ++ "'"
  | .unknownFunction name => "unknown function '" ++ name ++ "'"
  | .unknownTolerance name => "unknown tolerance mode '" ++ name ++ "'"
  | .unknownRounding name => "unknown rounding mode '" ++ name ++ "'"
  | .figures count mode => Integer.text count.toInt ++ " is out of range for " ++ mode.title
  | .oneOrTwo => "expected one or two values"
  | .emptyIntegers min max step =>
    "empty range min=" ++ Integer.text min.toInt ++ " max=" ++ Integer.text max.toInt ++ " step="
      ++ Integer.text step.toInt
  | .wideIntegers min max =>
    "range " ++ Integer.text min.toInt ++ "..=" ++ Integer.text max.toInt ++ " is too wide"
  | .emptyNumbers min max =>
    "empty range min=" ++ Binary64.text min ++ " max=" ++ Binary64.text max
  | .wideNumbers min max =>
    "range " ++ Binary64.text min ++ ".." ++ Binary64.text max ++ " is too wide"
  | .repeats count most =>
    Integer.text count.toInt ++ " repeats would exceed " ++ Integer.text most ++ " elements"
  | .shape fault => malformedMessage (.shape fault)
  | .pattern => "regex parse error"

/-- How a value or a declaration has a form that cannot be used. -/
inductive TypeFault where
  /-- A variable has no mapping. -/
  | noMapping (identifier : String)
  /-- A variable has no area mapping. -/
  | noAreaMapping (identifier : String)
  /-- A variable whose points are mapped holds no points. -/
  | noPoints (identifier : String)
  /-- A condition, given by the tag of its expression, is no single truth value. -/
  | condition (tag : String)
  /-- An outcome that is looked up has no table. -/
  | noTable (identifier : String)
  /-- An operator of the host refuses its operands, in words of its own. -/
  | refused (text : String)
  deriving DecidableEq, Repr

/-- The wording of a fault. -/
def TypeFault.message : TypeFault → String
  | .noMapping identifier => "variable '" ++ identifier ++ "' has no mapping"
  | .noAreaMapping identifier => "variable '" ++ identifier ++ "' has no area mapping"
  | .noPoints identifier => "mapResponsePoint needs a point variable, '" ++ identifier ++ "' is not"
  | .condition tag => "condition '" ++ tag ++ "' must evaluate to a single boolean"
  | .noTable identifier => "outcome '" ++ identifier ++ "' has no lookup table"
  | .refused text => text

/-- The declared shape of a value, as messages about assignments show it. -/
def describeShape (c : Cardinality) (b : Option BaseType) : String :=
  match b with
  | some b => c.name ++ " " ++ b.name
  | none => c.name

/-- What can stop an evaluation or a run of rules. -/
inductive Error where
  /-- Operands break the contract of an operator. -/
  | validation (operator : String) (fault : ContractFault)
  /-- Nothing is registered for a tag. -/
  | unknownExpression (tag : String)
  /-- A variable is not declared. -/
  | missingVariable (identifier : String)
  /-- The host knows no operator of this class. -/
  | unresolved (operatorClass : String)
  /-- An attribute is missing or faulty. -/
  | invalidAttribute (tag name : String) (fault : AttributeFault)
  /-- A value or a declaration has a form that cannot be used. -/
  | type (fault : TypeFault)
  /-- An integer result is out of range. -/
  | overflow (operator : String)
  /-- The value of an assignment has another shape than the outcome. -/
  | outcomeMismatch (identifier : String) (expected : Cardinality) (expectedType : Option BaseType)
      (found : Cardinality) (foundType : Option BaseType)
  /-- An expression is nested more deeply than is allowed. -/
  | depthExceeded (limit : Nat)
  /-- Data from the host is faulty. -/
  | load (error : LoadError)

/-- The wording of an error. -/
def Error.message : Error → String
  | .validation operator fault =>
    "validation failed for '" ++ operator ++ "': " ++ fault.message
  | .unknownExpression tag => "unknown expression: " ++ tag
  | .missingVariable identifier => "missing variable: " ++ identifier
  | .unresolved operatorClass =>
    "cannot resolve custom operator class '" ++ operatorClass ++ "'"
  | .invalidAttribute tag name fault =>
    "invalid attribute '" ++ name ++ "' on '" ++ tag ++ "': " ++ fault.message
  | .type fault => "type error: " ++ fault.message
  | .overflow operator => "integer overflow in '" ++ operator ++ "'"
  | .outcomeMismatch identifier expected expectedType found foundType =>
    "cannot assign " ++ describeShape found foundType ++ " to outcome '" ++ identifier
      ++ "' declared as " ++ describeShape expected expectedType
  | .depthExceeded limit => "expression depth exceeds limit of " ++ Integer.text limit
  | .load error => error.message

/-- The result of work that an error can stop. -/
abbrev Result (α : Type) := Except Error α

/-- Report an error in data from the host as an error of evaluation. -/
def Result.ofLoad {α : Type} (r : Except LoadError α) : Result α :=
  match r with
  | .ok a => .ok a
  | .error e => .error (.load e)

end ItemScoring
