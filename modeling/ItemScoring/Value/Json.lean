import ItemScoring.Scalar.Cast
import ItemScoring.Value.Basic
/-!
# Values as JSON

A payload is read from JSON for a cardinality and a base type. NULL is `null`, a single value is its
scalar, a collection is an array without the `null` items, and a record is an object. A field of a
record is a scalar, whose base type then follows from its JSON kind, or an object that names its
cardinality or base type.
-/

set_option autoImplicit false

namespace ItemScoring

/-- The scalars of the items of an array, in order. -/
def Scalar.listOfJson (b : BaseType) : List Json → Except LoadError (List Scalar)
  | [] => .ok []
  | item :: rest => do
    let s ← ofJson b item
    let ss ← listOfJson b rest
    return s :: ss

/-- The payload of a cardinality other than `record`. -/
def Payload.ofScalarJson (c : Cardinality) (baseType : Option BaseType) (raw : Json) :
    Except LoadError Payload :=
  match baseType with
  | none => .error (.malformed (.untypedValue c))
  | some b =>
    if c = .single then do
      let s ← Scalar.ofJson b raw
      return .single s
    else do
      let items := (raw.items?.getD [raw]).filter fun item => !item.isNull
      let ss ← Scalar.listOfJson b items
      return .ofScalars ss

/-- The base type that follows from the JSON kind of a scalar. -/
def BaseType.ofJsonKind? : Json → Option BaseType
  | .bool _ => some .boolean
  | .number n => some (if n.toInt64?.isSome then .integer else .float)
  | .string _ => some .string
  | _ => none

/-- A field of a record that is a scalar. -/
def Value.ofScalarField (raw : Json) : Except LoadError Value :=
  if raw.isNull then .ok (.null .single none)
  else
    match BaseType.ofJsonKind? raw with
    | none => .error (.malformed .recordField)
    | some b => do
      let payload ← Payload.ofScalarJson .single (some b) raw
      return .mk .single (some b) payload

/-- The cardinality that members declare; it is `single` when none is named. -/
def Cardinality.ofMembers (members : List (String × Json)) : Except LoadError Cardinality :=
  match (members.lookup "cardinality").bind Json.string? with
  | some name => ofName name
  | none => .ok .single

/-- The base type that members declare, when one is named. -/
def BaseType.ofMembers (members : List (String × Json)) : Except LoadError (Option BaseType) :=
  match (members.lookup "baseType").bind Json.string? with
  | some name => (ofName name).map some
  | none => .ok none

mutual

/-- The payload that JSON stands for, for a cardinality and a base type. -/
def Payload.ofJson (c : Cardinality) (b : Option BaseType) : Json → Except LoadError Payload
  | .null => .ok .null
  | .object members =>
    if c = .record then do
      let fields ← Value.fieldsOfJson members
      return .ofFields fields
    else Payload.ofScalarJson c b (.object members)
  | raw =>
    if c = .record then .error (.malformed .record) else Payload.ofScalarJson c b raw
termination_by structural j => j

/-- The payload of the member named `value`, or NULL when there is none. -/
def Payload.ofValueMember (c : Cardinality) (b : Option BaseType) :
    List (String × Json) → Except LoadError Payload
  | [] => .ok .null
  | (name, raw) :: rest =>
    if name = "value" then Payload.ofJson c b raw else Payload.ofValueMember c b rest
termination_by structural members => members

/-- A field of a record. -/
def Value.ofField : Json → Except LoadError Value
  | .object members =>
    if (members.lookup "baseType").isSome ∨ (members.lookup "cardinality").isSome then do
      let c ← Cardinality.ofMembers members
      let b ← BaseType.ofMembers members
      let payload ← Payload.ofValueMember c b members
      return .mk c b payload
    else .error (.malformed .recordField)
  | raw => Value.ofScalarField raw
termination_by structural j => j

/-- The fields of a record, in order. -/
def Value.fieldsOfJson : List (String × Json) → Except LoadError (List (String × Value))
  | [] => .ok []
  | (name, raw) :: rest => do
    let field ← Value.ofField raw
    let fields ← Value.fieldsOfJson rest
    return (name, field) :: fields
termination_by structural members => members

end

/-- The value of a shape that JSON stands for. -/
def Value.ofJson (c : Cardinality) (b : Option BaseType) (raw : Json) : Except LoadError Value := do
  let payload ← Payload.ofJson c b raw
  return .mk c b payload

mutual

/-- The JSON form of a payload. -/
def Payload.toJson : Payload → Json
  | .null => .null
  | .single s => s.toJson
  | .list ss => .array (ss.map Scalar.toJson)
  | .record fields => .object (Value.fieldsToJson fields)

/-- The JSON form of a value with its cardinality and base type. -/
def Value.toJson : Value → Json
  | .mk c b payload =>
    .object
      [("baseType", b.elim .null fun b => .string b.name),
        ("cardinality", .string c.name),
        ("value", Payload.toJson payload)]

/-- The JSON forms of the fields of a record. -/
def Value.fieldsToJson : List (String × Value) → List (String × Json)
  | [] => []
  | (name, field) :: rest => (name, Value.toJson field) :: Value.fieldsToJson rest

end

end ItemScoring
