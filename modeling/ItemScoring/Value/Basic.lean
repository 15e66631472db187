import ItemScoring.Cardinality
import ItemScoring.Scalar.Basic
/-!
# Values

A value has a cardinality, a base type and a payload. The payload that holds nothing is NULL, which
every cardinality and base type has; an empty collection and an empty record are NULL too. Records
have no base type of their own.
-/

set_option autoImplicit false

namespace ItemScoring

mutual

/-- A value: its declared shape and what it holds. -/
inductive Value where
  /-- A payload of the given cardinality and base type. -/
  | mk (cardinality : Cardinality) (baseType : Option BaseType) (payload : Payload)

/-- What a value holds. -/
inductive Payload where
  /-- Nothing: the value is NULL. -/
  | null
  /-- One scalar. -/
  | single (s : Scalar)
  /-- The scalars of a collection or a sequence. -/
  | list (scalars : List Scalar)
  /-- The fields of a record, sorted by name. -/
  | record (fields : List (String × Value))

end

namespace Payload

/-- Whether nothing is held. -/
def isNull : Payload → Bool
  | .null => true
  | _ => false

/-- The scalars that are held; the fields of a record do not count. -/
def scalars : Payload → List Scalar
  | .null => []
  | .single s => [s]
  | .list ss => ss
  | .record _ => []

/-- The scalar of a payload of one scalar. -/
def single? : Payload → Option Scalar
  | .single s => some s
  | _ => none

/-- The fields of a record. -/
def fields? : Payload → Option (List (String × Value))
  | .record fields => some fields
  | _ => none

/-- A collection; an empty one is NULL. -/
def ofScalars : List Scalar → Payload
  | [] => .null
  | ss => .list ss

/-- A record; an empty one is NULL. -/
def ofFields : List (String × Value) → Payload
  | [] => .null
  | fields => .record fields

end Payload

namespace Value

/-- The declared arrangement of the scalars. -/
def cardinality : Value → Cardinality
  | .mk c _ _ => c

/-- The declared kind of the scalars. -/
def baseType : Value → Option BaseType
  | .mk _ b _ => b

/-- What the value holds. -/
def payload : Value → Payload
  | .mk _ _ p => p

/-- One scalar of a base type. -/
def single (b : BaseType) (s : Scalar) : Value := .mk .single (some b) (.single s)

/-- A truth value. -/
def boolean (b : Bool) : Value := single .boolean (.boolean b)

/-- An integer. -/
def integer (n : Int64) : Value := single .integer (.integer n)

/-- A floating-point number. -/
def float (x : Float) : Value := single .float (.float (.ofFloat x))

/-- The NULL of a shape. -/
def null (c : Cardinality) (b : Option BaseType) : Value := .mk c b .null

/-- The single NULL of a base type. -/
def nullOf (b : BaseType) : Value := null .single (some b)

/-- A collection or sequence; an empty one is NULL. -/
def container (c : Cardinality) (b : BaseType) (ss : List Scalar) : Value :=
  .mk c (some b) (.ofScalars ss)

/-- Whether the value is NULL. -/
def isNull (v : Value) : Bool := v.payload.isNull

/-- The scalars of the value; NULL and records have none. -/
def scalars (v : Value) : List Scalar := v.payload.scalars

/-- The scalar of a value that holds one. -/
def single? (v : Value) : Option Scalar := v.payload.single?

/-- The fields of a record. -/
def fields? (v : Value) : Option (List (String × Value)) := v.payload.fields?

end Value

end ItemScoring
