import ItemScoring.Keyed
import ItemScoring.Numeric.Integer
import ItemScoring.Numeric.Numeral
/-!
# JSON values

Hosts hand over declarations, expressions and rules as JSON and receive outcomes as JSON. The
spelling of a number matters: a literal without point and exponent is an integer as long as it fits
64 bits, with or without a sign, and everything else is a binary floating-point number. Members of
an object are sorted by name.
-/

set_option autoImplicit false

namespace ItemScoring

/-- A JSON number. -/
inductive Json.Number where
  /-- An integer from `-2 ^ 63` to `2 ^ 64 - 1`. -/
  | integer (n : Int)
  /-- A finite binary floating-point number. -/
  | float (x : Float)

/-- A JSON value. -/
inductive Json where
  /-- The word `null`. -/
  | null
  /-- A truth value. -/
  | bool (b : Bool)
  /-- A number. -/
  | number (n : Json.Number)
  /-- A string. -/
  | string (s : String)
  /-- An array. -/
  | array (items : List Json)
  /-- An object, with its members sorted by name. -/
  | object (members : List (String × Json))
  deriving Inhabited

namespace Json

/-- The number as a signed 64-bit integer, when it is an integer in that range. -/
def Number.toInt64? : Number → Option Int64
  | .integer n => Integer.ofInt? n
  | .float _ => none

/-- The nearest binary floating-point number. -/
def Number.toFloat : Number → Float
  | .integer n => Binary64.ofInteger n
  | .float x => x

/-- Whether this is the word `null`. -/
def isNull : Json → Bool
  | .null => true
  | _ => false

/-- The member of an object with the given name; other kinds have no members. -/
def member? (name : String) : Json → Option Json
  | .object members => members.lookup name
  | _ => none

/-- The text of a string. -/
def string? : Json → Option String
  | .string s => some s
  | _ => none

/-- A truth value. -/
def bool? : Json → Option Bool
  | .bool b => some b
  | _ => none

/-- A signed 64-bit integer. -/
def int64? : Json → Option Int64
  | .number n => n.toInt64?
  | _ => none

/-- The items of an array. -/
def items? : Json → Option (List Json)
  | .array items => some items
  | _ => none

/-- An integer. -/
def ofInt (n : Int) : Json := .number (.integer n)

/-- An object with the given members. -/
def ofMembers (members : List (String × Json)) : Json := .object (Keyed.ofList members)

end Json

end ItemScoring
