import ItemScoring.Attribute
import ItemScoring.Proofs.Blank

/-!
# References in attributes

An attribute may refer to a variable by its identifier in braces, and a list of numbers may do so
in each of its words. The identifier then stands in the text of the attribute. What an attribute is
read as depends on the session only through the scalars that its references find.
-/

set_option autoImplicit false

namespace ItemScoring

namespace Attribute

/-- A text refers to a variable, as a whole or in one of its words. -/
def RefersTo (raw identifier : String) : Prop :=
  reference? raw = some identifier ∨ ∃ word ∈ Text.words raw, reference? word = some identifier

theorem infix_of_referenceChars? {cs inner : List Char} (h : referenceChars? cs = some inner) :
    inner <:+: cs := by
  have trimmed := Text.trimChars_infix cs
  unfold referenceChars? at h
  split at h
  · next rest opened =>
      split at h
      · next between closed =>
          cases h
          have body : between.reverse <+: rest := by
            rw [← List.reverse_suffix, List.reverse_reverse, closed]
            exact List.suffix_cons _ _
          have inside := (Text.trimChars_infix between.reverse).trans body.isInfix
          have behind : rest <:+ Text.trimChars cs := opened ▸ List.suffix_cons _ rest
          exact (inside.trans behind.isInfix).trans trimmed
      · cases h
  · cases h

theorem infix_of_reference? {raw identifier : String} (h : reference? raw = some identifier) :
    identifier.toList <:+: raw.toList := by
  obtain ⟨inner, found, rfl⟩ := Option.map_eq_some_iff.1 h
  rw [String.toList_ofList]
  exact infix_of_referenceChars? found

/-- The identifier that a text refers to stands in the text. -/
theorem RefersTo.infix {raw identifier : String} (h : RefersTo raw identifier) :
    identifier.toList <:+: raw.toList := by
  rcases h with whole | ⟨word, mem, found⟩
  · exact infix_of_reference? whole
  · obtain ⟨cs, part, rfl⟩ := List.mem_map.1 mem
    have inside := infix_of_reference? found
    rw [String.toList_ofList] at inside
    exact inside.trans (Text.infix_of_mem_wordsChars part)

end Attribute

namespace Expression

/-- An attribute of the node refers to the variable. -/
def RefersTo (e : Expression) (identifier : String) : Prop :=
  ∃ entry ∈ e.attributes, Attribute.RefersTo entry.2 identifier

theorem mem_of_attribute? {e : Expression} {name raw : String} (h : e.attribute? name = some raw) :
    (name, raw) ∈ e.attributes := by
  obtain ⟨before, after, same, -⟩ := List.lookup_eq_some_iff.1 h
  rw [same]
  exact List.mem_append_right before List.mem_cons_self

theorem refersTo_of_reference? {e : Expression} {name raw identifier : String}
    (h : e.attribute? name = some raw) (refers : Attribute.reference? raw = some identifier) :
    e.RefersTo identifier := ⟨_, mem_of_attribute? h, .inl refers⟩

theorem refersTo_of_word {e : Expression} {name raw word identifier : String}
    (h : e.attribute? name = some raw) (mem : word ∈ Text.words raw)
    (refers : Attribute.reference? word = some identifier) : e.RefersTo identifier :=
  ⟨_, mem_of_attribute? h, .inr ⟨word, mem, refers⟩⟩

/-- References in the attributes of a node find the same scalars in both sessions. -/
def SameReferences (e : Expression) (s t : Session) : Prop :=
  ∀ identifier, e.RefersTo identifier →
    ((s.find? identifier).bind fun v => v.value.single?) =
      (t.find? identifier).bind fun v => v.value.single?

end Expression

/-- References in attributes find the same scalars in both sessions. -/
def Session.SameReferences (s t : Session) : Prop :=
  ∀ identifier, ((s.find? identifier).bind fun v => v.value.single?) =
    (t.find? identifier).bind fun v => v.value.single?

theorem Session.SameReferences.ofExpression {s t : Session} (h : s.SameReferences t)
    (e : Expression) : e.SameReferences s t := fun identifier _ => h identifier

namespace Attribute

variable {e : Expression} {s t : Session} (h : e.SameReferences s t) (name : String)
include h

theorem referenced_eq {identifier : String} (refers : e.RefersTo identifier) :
    referenced e s name identifier = referenced e t name identifier := by
  unfold referenced
  rw [h identifier refers]

theorem string_eq : string e s name = string e t name := by
  unfold string
  split
  · rfl
  · next raw there =>
      cases refers : reference? raw with
      | none => rfl
      | some identifier =>
          simp only [referenced_eq h name (Expression.refersTo_of_reference? there refers)]

theorem integer_eq : integer e s name = integer e t name := by
  unfold integer
  split
  · rfl
  · next raw there =>
      cases refers : reference? raw with
      | none => rfl
      | some identifier =>
          simp only [referenced_eq h name (Expression.refersTo_of_reference? there refers)]

theorem listItems_eq {raw : String} (there : e.attribute? name = some raw) {words : List String}
    (part : ∀ word ∈ words, word ∈ Text.words raw) :
    listItems e s name words = listItems e t name words := by
  induction words with
  | nil => rfl
  | cons word rest ih =>
      obtain ⟨mem, others⟩ := List.forall_mem_cons.1 part
      have item : listItem e s name word = listItem e t name word := by
        unfold listItem
        cases refers : reference? word with
        | none => rfl
        | some identifier =>
            simp only [referenced_eq h name (Expression.refersTo_of_word there mem refers)]
      rw [listItems, listItems, item, ih others]

theorem floatList_eq : floatList e s name = floatList e t name := by
  unfold floatList
  split
  · rfl
  · next raw there => rw [listItems_eq h name there fun _ mem => mem]

end Attribute

end ItemScoring
