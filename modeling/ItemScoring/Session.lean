import ItemScoring.Mapping
import ItemScoring.Value.Json
/-!
# Variables and sessions

A variable has a fixed shape and holds a payload, which is all that processing changes. A session is
the set of declared variables, sorted by identifier.
-/

set_option autoImplicit false

namespace ItemScoring

/-- A declared variable. -/
structure Variable where
  /-- The name of the variable. -/
  identifier : String
  /-- The declared arrangement of scalars. -/
  cardinality : Cardinality
  /-- The declared kind of scalars; records have none. -/
  baseType : Option BaseType
  /-- What the variable holds. -/
  value : Payload
  /-- What it holds before any assignment. -/
  defaultValue : Payload
  /-- What the right response is. -/
  correctResponse : Payload
  /-- Scores for scalars. -/
  mapping : Option Mapping
  /-- Scores for points. -/
  areaMapping : Option AreaMapping
  /-- The table for outcomes that are looked up. -/
  lookupTable : Option LookupTable

namespace Variable

/-- A payload with the declared shape. -/
def shaped (v : Variable) (p : Payload) : Value := .mk v.cardinality v.baseType p

/-- The current value. -/
def currentValue (v : Variable) : Value := v.shaped v.value

/-- A member that is a payload of the declared shape; it is NULL when it is missing. -/
def payloadField (c : Cardinality) (b : Option BaseType) (j : Json) (name : String) :
    Except LoadError Payload :=
  match j.member? name with
  | none => .ok .null
  | some raw => Payload.ofJson c b raw

/-- Read a part of a declaration when it is there. -/
def optionalField {α : Type} (j : Json) (name : String) (read : Json → Except LoadError α) :
    Except LoadError (Option α) :=
  match j.member? name with
  | none => .ok none
  | some raw => (read raw).map some

/-- The base type of a declaration; only records may do without one. -/
def baseTypeOfJson (identifier : String) (c : Cardinality) (j : Json) :
    Except LoadError (Option BaseType) :=
  match (j.member? "baseType").bind Json.string? with
  | some name => (BaseType.ofName name).map some
  | none => if c = .record then .ok none else .error (.malformed (.untypedVariable identifier))

/-- Read a declaration. The cardinality is `single` when none is named, and the value is the default
when none is given. -/
def ofJson (j : Json) : Except LoadError Variable := do
  let identifier ← j.stringField "identifier"
  let cardinality ←
    match (j.member? "cardinality").bind Json.string? with
    | some name => Cardinality.ofName name
    | none => pure .single
  let baseType ← baseTypeOfJson identifier cardinality j
  let defaultValue ← payloadField cardinality baseType j "defaultValue"
  let value ←
    match j.member? "value" with
    | some raw => Payload.ofJson cardinality baseType raw
    | none => pure defaultValue
  let correctResponse ← payloadField cardinality baseType j "correctResponse"
  let mapping ← optionalField j "mapping" (Mapping.ofJson baseType)
  let areaMapping ← optionalField j "areaMapping" AreaMapping.ofJson
  let lookupTable ← optionalField j "lookupTable" (LookupTable.ofJson baseType)
  return {
    identifier, cardinality, baseType, value, defaultValue, correctResponse, mapping, areaMapping,
    lookupTable }

end Variable

/-- The declared variables, sorted by identifier. -/
structure Session where
  /-- The variables. -/
  declared : List Variable
  /-- Identifiers increase strictly, so no two variables share one. -/
  sorted : declared.Pairwise fun a b => a.identifier < b.identifier

namespace Session

/-- No variable is declared. -/
def empty : Session := ⟨[], .nil⟩

/-- The variable with the given identifier. -/
def find? (s : Session) (identifier : String) : Option Variable :=
  s.declared.find? fun v => v.identifier = identifier

/-- Put a variable in its place; a variable with the same identifier is replaced. -/
def place (new : Variable) : List Variable → List Variable
  | [] => [new]
  | v :: rest =>
    if new.identifier < v.identifier then new :: v :: rest
    else if new.identifier = v.identifier then new :: rest
    else v :: place new rest

/-- The identifiers after placing a variable are its own and those before. -/
theorem mem_place {new v : Variable} {vs : List Variable} (h : v ∈ place new vs) :
    v = new ∨ v ∈ vs := by
  induction vs with
  | nil => exact .inl (List.mem_singleton.1 h)
  | cons first rest ih =>
    unfold place at h
    split at h
    · exact List.mem_cons.1 h
    split at h
    · rcases List.mem_cons.1 h with h | h
      · exact .inl h
      · exact .inr (List.mem_cons_of_mem _ h)
    · rcases List.mem_cons.1 h with h | h
      · exact .inr (h ▸ List.mem_cons_self)
      · exact (ih h).imp id (List.mem_cons_of_mem _)

/-- Placing a variable keeps the identifiers strictly increasing. -/
theorem sorted_place (new : Variable) {vs : List Variable}
    (h : vs.Pairwise fun a b => a.identifier < b.identifier) :
    (place new vs).Pairwise fun a b => a.identifier < b.identifier := by
  induction vs with
  | nil => simp [place]
  | cons first rest ih =>
    obtain ⟨before, others⟩ := List.pairwise_cons.1 h
    unfold place
    split
    · next less =>
      refine List.pairwise_cons.2 ⟨fun b hb => ?_, h⟩
      rcases List.mem_cons.1 hb with rfl | hb
      · exact less
      · exact String.lt_trans less (before b hb)
    split
    · next same => exact List.pairwise_cons.2 ⟨fun b hb => same ▸ before b hb, others⟩
    · next notLess notSame =>
      refine List.pairwise_cons.2 ⟨fun b hb => ?_, ih others⟩
      rcases mem_place hb with rfl | hb
      · rcases String.le_total first.identifier b.identifier with le | le
        · exact String.not_le.1 fun ge => notSame (String.le_antisymm ge le)
        · exact absurd (String.not_le.1 fun ge => notSame (String.le_antisymm le ge)) notLess
      · exact before b hb

/-- Declare a variable. An earlier declaration with the same identifier is replaced. -/
def declare (s : Session) (v : Variable) : Session :=
  ⟨place v s.declared, sorted_place v s.sorted⟩

/-- Let the variable with the given identifier hold a payload. -/
def store (s : Session) (identifier : String) (p : Payload) : Session where
  declared :=
    s.declared.map fun v => if v.identifier = identifier then { v with value := p } else v
  sorted := by
    refine List.pairwise_map.2 (s.sorted.imp fun {a b} h => ?_)
    split <;> split <;> exact h

/-- Declare variables one after the other. -/
def declareAll (s : Session) : List Json → Except LoadError Session
  | [] => .ok s
  | j :: rest => do
    let v ← Variable.ofJson j
    declareAll (s.declare v) rest

/-- Read an array of declarations. -/
def ofJson (j : Json) : Except LoadError Session :=
  match j.items? with
  | none => .error (.malformed .session)
  | some items => empty.declareAll items

/-- The current values by identifier. -/
def valuesJson (s : Session) : Json :=
  .object (s.declared.map fun v => (v.identifier, v.value.toJson))

end Session

end ItemScoring
