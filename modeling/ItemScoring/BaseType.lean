/-!
# Base types

A base type says what kind of scalars a value is made of. Records have none; each of their fields
has its own.
-/

set_option autoImplicit false

namespace ItemScoring

/-- The kind of the scalars of a value. -/
inductive BaseType where
  /-- A name without blanks around it. -/
  | identifier
  /-- A truth value. -/
  | boolean
  /-- A 64-bit integer. -/
  | integer
  /-- A binary floating-point number. -/
  | float
  /-- Any text. -/
  | string
  /-- A point with integral coordinates. -/
  | point
  /-- Two identifiers whose order does not count. -/
  | pair
  /-- Two identifiers in order. -/
  | directedPair
  /-- A length of time. -/
  | duration
  /-- The contents of a file. -/
  | file
  /-- A resource identifier. -/
  | uri
  /-- An integer, or else an identifier. -/
  | intOrIdentifier
  deriving DecidableEq, Repr

namespace BaseType

/-- Every base type. -/
def all : List BaseType :=
  [.identifier, .boolean, .integer, .float, .string, .point, .pair, .directedPair, .duration,
    .file, .uri, .intOrIdentifier]

/-- The name of a base type. -/
def name : BaseType → String
  | .identifier => "identifier"
  | .boolean => "boolean"
  | .integer => "integer"
  | .float => "float"
  | .string => "string"
  | .point => "point"
  | .pair => "pair"
  | .directedPair => "directedPair"
  | .duration => "duration"
  | .file => "file"
  | .uri => "uri"
  | .intOrIdentifier => "intOrIdentifier"

/-- The base type with the given name. -/
def ofName? (s : String) : Option BaseType := all.find? fun b => b.name = s

/-- The base types of numbers. -/
def numeric : List BaseType := [.integer, .float]

/-- Whether scalars of this base type are numbers. -/
def isNumeric (b : BaseType) : Bool := numeric.contains b

/-- Every base type is found by its name. -/
theorem ofName?_name (b : BaseType) : ofName? b.name = some b := by
  cases b <;> decide

end BaseType

end ItemScoring
