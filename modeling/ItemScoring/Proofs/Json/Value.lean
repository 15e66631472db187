import ItemScoring.Value.Json
import ItemScoring.Proofs.Json.Scalar
import ItemScoring.Proofs.Results

/-!
# Values that their JSON form stands for

A payload is portable for a shape when it has the shape and its scalars are portable for the base
type; NULL is portable for every shape. The fields of a record carry their own shapes, so they are
written as objects that name them, and they are portable for these. A portable payload is read back
from its JSON form (`Payload.ofJson_toJson_of_portable`).
-/

set_option autoImplicit false

namespace ItemScoring

/-- The payloads of each shape that survive being written and read. -/
inductive Payload.Portable : Cardinality → Option BaseType → Payload → Prop where
  | null (c : Cardinality) (b : Option BaseType) : Portable c b .null
  | single {t : BaseType} {s : Scalar} (scalar : s.Portable t) :
      Portable .single (some t) (.single s)
  | list {c : Cardinality} {t : BaseType} {ss : List Scalar} (container : c.isContainer = true)
      (nonempty : ss ≠ []) (scalars : ∀ s ∈ ss, s.Portable t) : Portable c (some t) (.list ss)
  | record {b : Option BaseType} {fields : List (String × Value)} (nonempty : fields ≠ [])
      (portable : ∀ entry ∈ fields,
        Portable entry.2.cardinality entry.2.baseType entry.2.payload) :
      Portable .record b (.record fields)

mutual

/-- A payload, with the usual pattern for what is no number. Payloads that have one usual form
differ in nothing but such patterns. -/
def Payload.usual : Payload → Payload
  | .null => .null
  | .single s => .single s.usual
  | .list ss => .list (ss.map Scalar.usual)
  | .record fields => .record (Value.usualFields fields)

/-- A value, with the usual pattern for what is no number. -/
def Value.usual : Value → Value
  | .mk c b p => .mk c b p.usual

/-- The fields of a record, with the usual pattern for what is no number. -/
def Value.usualFields : List (String × Value) → List (String × Value)
  | [] => []
  | (name, field) :: rest => (name, field.usual) :: Value.usualFields rest

end

/-! ## Scalars and lists of scalars -/

theorem Scalar.isNull_toJson (s : Scalar) : s.toJson.isNull = false := by
  have number (x : Float) : (numberJson x).isNull = false := by
    unfold numberJson
    split <;> rfl
  cases s with
  | float x => exact number x.toFloat
  | duration d => exact number d.toSeconds
  | _ => rfl

theorem Scalar.listOfJson_of_portable {t : BaseType} {ss : List Scalar}
    (h : ∀ s ∈ ss, s.Portable t) : listOfJson t (ss.map toJson) = .ok (ss.map usual) := by
  induction ss with
  | nil => rfl
  | cons s rest ih =>
      obtain ⟨first, others⟩ := List.forall_mem_cons.1 h
      rw [List.map_cons, listOfJson, ofJson_of_portable first, ih others]
      rfl

namespace Payload

/-- The JSON form of a scalar is neither `null` nor an object, so it is read as a scalar. -/
theorem ofJson_scalar {c : Cardinality} (notRecord : c ≠ .record) (b : Option BaseType)
    (s : Scalar) : ofJson c b s.toJson = ofScalarJson c b s.toJson := by
  have number (x : Float) :
      ofJson c b (Scalar.numberJson x) = ofScalarJson c b (Scalar.numberJson x) := by
    unfold Scalar.numberJson
    split <;> exact if_neg notRecord
  cases s with
  | float x => exact number x.toFloat
  | duration d => exact number d.toSeconds
  | _ => exact if_neg notRecord

theorem ofJson_single {t : BaseType} {s : Scalar} (h : s.Portable t) :
    ofJson .single (some t) s.toJson = .ok (.single s.usual) := by
  rw [ofJson_scalar (by decide)]
  change (Scalar.ofJson t s.toJson >>= _) = _
  rw [Scalar.ofJson_of_portable h]
  rfl

theorem ofJson_list {c : Cardinality} {t : BaseType} {ss : List Scalar}
    (container : c.isContainer = true) (nonempty : ss ≠ []) (h : ∀ s ∈ ss, s.Portable t) :
    ofJson c (some t) (.array (ss.map Scalar.toJson)) = .ok (.list (ss.map Scalar.usual)) := by
  have notRecord : c ≠ .record := by
    rintro rfl
    cases container
  have notSingle : c ≠ .single := by
    rintro rfl
    cases container
  have items : (ss.map Scalar.toJson).filter (fun item => !item.isNull) = ss.map Scalar.toJson := by
    simp [List.filter_eq_self, Scalar.isNull_toJson]
  have scalars : ofScalars (ss.map Scalar.usual) = .list (ss.map Scalar.usual) := by
    cases ss with
    | nil => exact absurd rfl nonempty
    | cons s rest => rfl
  refine (if_neg notRecord).trans ((if_neg notSingle).trans ?_)
  change (Scalar.listOfJson t ((ss.map Scalar.toJson).filter fun item => !item.isNull) >>= _) = _
  rw [items, Scalar.listOfJson_of_portable h]
  exact congrArg Except.ok scalars

end Payload

/-! ## Records -/

namespace Value

theorem ofMembers_toJson (c : Cardinality) (b : Option BaseType) (raw : Json) :
    let members := [("baseType", b.elim .null fun b => .string b.name),
      ("cardinality", .string c.name), ("value", raw)]
    Cardinality.ofMembers members = .ok c ∧ BaseType.ofMembers members = .ok b := by
  constructor
  · change Cardinality.ofName c.name = .ok c
    rw [Cardinality.ofName, Cardinality.ofName?_name]
  · cases b with
    | none => rfl
    | some t =>
        change (BaseType.ofName t.name).map some = .ok (some t)
        rw [BaseType.ofName, BaseType.ofName?_name]
        rfl

/-- A field is written with its cardinality and base type, and is read back when its payload is. -/
theorem ofField_toJson {v : Value}
    (h : Payload.ofJson v.cardinality v.baseType v.payload.toJson = .ok v.payload.usual) :
    ofField v.toJson = .ok v.usual := by
  obtain ⟨c, b, p⟩ := v
  obtain ⟨cardinality, baseType⟩ := ofMembers_toJson c b p.toJson
  change (Cardinality.ofMembers _ >>= _) = _
  rw [cardinality]
  change (BaseType.ofMembers _ >>= _) = _
  rw [baseType]
  have payload : Payload.ofJson c b p.toJson = .ok p.usual := h
  change (Payload.ofJson c b p.toJson >>= _) = _
  rw [payload]
  rfl

theorem fieldsOfJson_toJson {fields : List (String × Value)}
    (h : ∀ entry ∈ fields, ofField entry.2.toJson = .ok entry.2.usual) :
    fieldsOfJson (fieldsToJson fields) = .ok (usualFields fields) := by
  induction fields with
  | nil => rfl
  | cons entry rest ih =>
      obtain ⟨first, others⟩ := List.forall_mem_cons.1 h
      obtain ⟨name, field⟩ := entry
      rw [fieldsToJson, fieldsOfJson, first, ih others]
      rfl

end Value

/-- A portable payload is read back from its JSON form; only what is no number may have had another
pattern. -/
theorem Payload.ofJson_toJson_of_portable {c : Cardinality} {b : Option BaseType} {p : Payload}
    (h : p.Portable c b) : ofJson c b p.toJson = .ok p.usual := by
  induction h with
  | null c b => rfl
  | single scalar => exact ofJson_single scalar
  | list container nonempty scalars => exact ofJson_list container nonempty scalars
  | @record b fields nonempty _ ih =>
      -- The hypothesis is about the payload of each field, the reader of records about the field.
      have loaded : Value.fieldsOfJson (Value.fieldsToJson fields) =
          .ok (Value.usualFields fields) :=
        Value.fieldsOfJson_toJson fun entry mem => Value.ofField_toJson (ih entry mem)
      change (Value.fieldsOfJson (Value.fieldsToJson fields) >>= _) = _
      rw [loaded]
      cases fields with
      | nil => exact absurd rfl nonempty
      | cons entry rest => rfl

/-- A record with a record inside, and with scalars of which other readers would make something
else: a text that is a numeral, a name with a digit, and numbers that are not finite, one of them
with a sign that is not written. -/
def Payload.attempt : Payload :=
  .record
    [("choice", .single .intOrIdentifier (.identifier "A1")),
      ("label", .single .string (.string " 12 ")),
      ("links", .mk .multiple (some .pair) (.list [.pair "A" "B", .pair "C" "D"])),
      ("timing", .mk .record none
        (.record
          [("end", .nullOf .duration), ("limit", .float (1 / 0)),
            ("offset", .single .float (.float Binary64.negativeNotNumber)),
            ("tries", .single .integer Scalar.notNumber)])),
      ("tip", .single .point (.point 0 (-3)))]

theorem Payload.attempt_ofJson_toJson :
    attempt.Portable .record none ∧
      ofJson .record none attempt.toJson = .ok attempt.usual := by
  have choice : Scalar.Portable .intOrIdentifier (.identifier "A1") := by
    refine .name ⟨by simp [Text.isBlank], by simp [Text.isBlank]⟩ fun n numeral => ?_
    have read : Integer.read "A1" = .ok n := Integer.read_eq_ok.2 numeral
    cases read
  have links : ∀ s ∈ [Scalar.pair "A" "B", .pair "C" "D"], s.Portable .pair := by
    simp only [List.forall_mem_cons]
    refine ⟨.pair ?_ ?_, .pair ?_ ?_, List.forall_mem_nil _⟩
    all_goals exact ⟨by decide, by simp [Text.isBlank]⟩
  have timing : Payload.Portable .record none
      (.record
        [("end", .nullOf .duration), ("limit", .float (1 / 0)),
          ("offset", .single .float (.float Binary64.negativeNotNumber)),
          ("tries", .single .integer Scalar.notNumber)]) := by
    refine .record (List.cons_ne_nil _ _) ?_
    simp only [List.forall_mem_cons]
    exact ⟨.null .single _, .single (.float _), .single (.float _), .single (.noInteger rfl),
      List.forall_mem_nil _⟩
  have portable : attempt.Portable .record none := by
    refine .record (List.cons_ne_nil _ _) ?_
    simp only [List.forall_mem_cons]
    exact ⟨.single choice, .single (.string " 12 "), .list rfl (List.cons_ne_nil _ _) links, timing,
      .single (.point 0 (-3)), List.forall_mem_nil _⟩
  exact ⟨portable, ofJson_toJson_of_portable portable⟩

end ItemScoring
