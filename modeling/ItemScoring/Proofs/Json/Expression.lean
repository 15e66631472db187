import ItemScoring.Proofs.Expression
import ItemScoring.Proofs.Results

/-!
# Expressions through JSON

The readers of JSON that call themselves look for a member by recursion on the list of members. Each
does what looking the member up and reading what is found does. The JSON form of an expression is
read back to the expression: each of the four readers of a node finds what was written for it.
-/

set_option autoImplicit false

namespace ItemScoring

/-- A reader that goes through the members up to the first one of a name looks that name up. -/
theorem Json.lookup_elim {α : Type} {name : String} {absent : α} {read : Json → α}
    {reader : List (String × Json) → α} (nil : reader [] = absent)
    (cons : ∀ key raw rest,
      reader ((key, raw) :: rest) = if key = name then read raw else reader rest)
    (members : List (String × Json)) :
    reader members = (members.lookup name).elim absent read := by
  induction members with
  | nil => exact nil
  | cons member rest ih =>
      obtain ⟨key, raw⟩ := member
      rw [cons, List.lookup_cons]
      by_cases found : key = name
      · subst found
        simp
      · have other : (name == key) = false := beq_eq_false_iff_ne.2 (Ne.symm found)
        rw [if_neg found, ih, other]

namespace Expression

theorem childrenMember_eq (members : List (String × Json)) :
    childrenMember members = (members.lookup "children").elim (.ok []) childrenOfJson :=
  Json.lookup_elim rfl (fun _ _ _ => rfl) members

theorem attributesOfJson_toJson (attributes : List (String × String)) :
    attributesOfJson (.object (attributes.map fun (name, text) => (name, .string text))) =
      .ok attributes := by
  unfold attributesOfJson
  dsimp only
  induction attributes with
  | nil => rfl
  | cons entry rest ih =>
      rw [List.map_cons, List.mapM_cons, ih]
      rfl

theorem listOfJson_toJson {es : List Expression} (h : ∀ e ∈ es, ofJson e.toJson = .ok e) :
    listOfJson (listToJson es) = .ok es := by
  induction es with
  | nil => rfl
  | cons e rest ih =>
      obtain ⟨first, others⟩ := List.forall_mem_cons.1 h
      rw [listToJson, listOfJson, first, ih others]
      rfl

/-- What the readers look up in the JSON form of an expression. -/
theorem lookup_toJson (e : Expression) :
    ∃ members, e.toJson = .object members ∧
      members.lookup "tag" = some (.string e.tag) ∧
      members.lookup "attributes" =
        some (.object (e.attributes.map fun (name, text) => (name, .string text))) ∧
      members.lookup "children" = some (.array (listToJson e.children)) ∧
      members.lookup "literal" = e.literal.map .string := by
  obtain ⟨tag, attributes, children, literal⟩ := e
  cases literal with
  | none => exact ⟨_, rfl, rfl, rfl, rfl, rfl⟩
  | some text => exact ⟨_, rfl, rfl, rfl, rfl, rfl⟩

/-- The JSON form of an expression is read back to the expression. -/
theorem ofJson_toJson (e : Expression) : ofJson e.toJson = .ok e := by
  induction e using induction with
  | node e ih =>
      obtain ⟨members, form, tag, attributes, children, literal⟩ := lookup_toJson e
      have hattributes : attributesMember members = .ok e.attributes := by
        rw [attributesMember, attributes]
        exact attributesOfJson_toJson e.attributes
      have hchildren : childrenMember members = .ok e.children := by
        rw [childrenMember_eq, children]
        exact listOfJson_toJson ih
      have hliteral : literalMember members = .ok e.literal := by
        rw [literalMember, literal]
        cases e.literal <;> rfl
      rw [form, ofJson, tagMember, tag, hattributes, hchildren, hliteral]
      cases e
      rfl

end Expression

end ItemScoring
