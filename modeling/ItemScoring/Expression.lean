import ItemScoring.Json.Basic
import ItemScoring.LoadError
/-!
# Expressions

An expression is a tree of nodes. The tag of a node names what is computed, its attributes are
parameters, its children are operands, and some nodes carry a literal. In JSON a node is an object,
whose attributes, children and literal may be left out, or an array of the four parts in order,
from which parts may be missing at the end.
-/

set_option autoImplicit false

namespace ItemScoring

/-- A node of an expression tree. -/
structure Expression where
  /-- What is computed. -/
  tag : String
  /-- The parameters, sorted by name. -/
  attributes : List (String × String)
  /-- The operands. -/
  children : List Expression
  /-- The literal, when there is one. -/
  literal : Option String

namespace Expression

/-- The text of an attribute. -/
def attribute? (e : Expression) (name : String) : Option String := e.attributes.lookup name

/-- A node without children and literal. -/
def leaf (tag : String) (attributes : List (String × String)) : Expression :=
  ⟨tag, Keyed.ofList attributes, [], none⟩

mutual

/-- The number of nodes. -/
def size : Expression → Nat
  | ⟨_, _, children, _⟩ => sizeOfAll children + 1
termination_by structural e => e

/-- The number of nodes of expressions. -/
def sizeOfAll : List Expression → Nat
  | [] => 0
  | e :: rest => size e + sizeOfAll rest
termination_by structural es => es

end

/-- What is reported of JSON that is no expression. -/
def malformed {α : Type} : Except LoadError α := .error (.malformed .expression)

/-- The attributes of a node: every member has to be a string. -/
def attributesOfJson : Json → Except LoadError (List (String × String))
  | .object members =>
    members.mapM fun (name, raw) =>
      match raw with
      | .string s => .ok (name, s)
      | _ => malformed
  | _ => malformed

/-- The literal of a node: a string, or `null` for none. -/
def literalOfJson : Json → Except LoadError (Option String)
  | .null => .ok none
  | .string s => .ok (some s)
  | _ => malformed

/-- The tag of a node. -/
def tagOfJson : Json → Except LoadError String
  | .string s => .ok s
  | _ => malformed

/-- The tag among the members of a node. -/
def tagMember (members : List (String × Json)) : Except LoadError String :=
  match members.lookup "tag" with
  | some raw => tagOfJson raw
  | none => malformed

/-- The attributes among the members of a node; there may be none. -/
def attributesMember (members : List (String × Json)) :
    Except LoadError (List (String × String)) :=
  match members.lookup "attributes" with
  | some raw => attributesOfJson raw
  | none => .ok []

/-- The literal among the members of a node; there may be none. -/
def literalMember (members : List (String × Json)) : Except LoadError (Option String) :=
  match members.lookup "literal" with
  | some raw => literalOfJson raw
  | none => .ok none

mutual

/-- The expression that JSON stands for. -/
def ofJson : Json → Except LoadError Expression
  | .object members => do
    let tag ← tagMember members
    let attributes ← attributesMember members
    let children ← childrenMember members
    let literal ← literalMember members
    return { tag, attributes, children, literal }
  | .array parts => ofParts parts
  | _ => malformed
termination_by structural j => j

/-- A node given by its parts in order. -/
def ofParts : List Json → Except LoadError Expression
  | [] => malformed
  | tag :: parts => do
    let tag ← tagOfJson tag
    match parts with
    | [] => return ⟨tag, [], [], none⟩
    | attributes :: parts =>
      let attributes ← attributesOfJson attributes
      match parts with
      | [] => return ⟨tag, attributes, [], none⟩
      | children :: parts =>
        let children ← childrenOfJson children
        match parts with
        | [] => return ⟨tag, attributes, children, none⟩
        | [literal] =>
          let literal ← literalOfJson literal
          return { tag, attributes, children, literal }
        | _ => malformed
termination_by structural parts => parts

/-- The children of a node. -/
def childrenOfJson : Json → Except LoadError (List Expression)
  | .array items => listOfJson items
  | _ => malformed
termination_by structural j => j

/-- Expressions, in order. -/
def listOfJson : List Json → Except LoadError (List Expression)
  | [] => .ok []
  | item :: rest => do
    let e ← ofJson item
    let es ← listOfJson rest
    return e :: es
termination_by structural items => items

/-- The children among the members of a node; there may be none. -/
def childrenMember : List (String × Json) → Except LoadError (List Expression)
  | [] => .ok []
  | (name, raw) :: rest =>
    if name = "children" then childrenOfJson raw else childrenMember rest
termination_by structural members => members

end

mutual

/-- The JSON form of an expression, as an object. A literal is left out when there is none. -/
def toJson : Expression → Json
  | ⟨tag, attributes, children, literal⟩ =>
    .object
      (("attributes", .object (attributes.map fun (name, text) => (name, .string text)))
        :: ("children", .array (listToJson children))
        :: (literal.elim [] fun text => [("literal", .string text)])
        ++ [("tag", .string tag)])

/-- The JSON forms of expressions. -/
def listToJson : List Expression → List Json
  | [] => []
  | e :: rest => toJson e :: listToJson rest

end

end Expression

end ItemScoring
