import ItemScoring.Error
import ItemScoring.Expression
import ItemScoring.Session
/-!
# Attributes of expressions

An attribute is read as a text, an integer, a number, a list of numbers or a truth value. All but
truth values may be given as the identifier of a variable in braces; the attribute then is the
single value that the variable holds.
-/

set_option autoImplicit false

namespace ItemScoring.Attribute

/-- Report a faulty attribute. -/
def invalid {α : Type} (e : Expression) (name : String) (fault : AttributeFault) : Result α :=
  .error (.invalidAttribute e.tag name fault)

/-- The text of an attribute, which has to be there. -/
def required (e : Expression) (name : String) : Result String :=
  match e.attribute? name with
  | some raw => .ok raw
  | none => invalid e name .required

/-- What an attribute was read as, which has to be there. -/
def require {α : Type} (e : Expression) (name : String) (read : Option α) : Result α :=
  match read with
  | some a => .ok a
  | none => invalid e name .required

/-- The identifier between braces, for a text that is nothing else. -/
def referenceChars? (cs : List Char) : Option (List Char) :=
  match Text.trimChars cs with
  | '\x7b' :: rest =>
    match rest.reverse with
    | '\x7d' :: inner => some (Text.trimChars inner.reverse)
    | _ => none
  | _ => none

/-- The identifier between braces, for a text that is nothing else. -/
def reference? (raw : String) : Option String :=
  (referenceChars? raw.toList).map String.ofList

/-- The single value of the variable that an attribute refers to. -/
def referenced (e : Expression) (s : Session) (name identifier : String) : Result Scalar :=
  match (s.find? identifier).bind fun v => v.value.single? with
  | some scalar => .ok scalar
  | none => invalid e name (.reference identifier)

/-- An attribute as text. -/
def string (e : Expression) (s : Session) (name : String) : Result (Option String) :=
  match e.attribute? name with
  | none => .ok none
  | some raw =>
    match reference? raw with
    | some identifier => do
      let scalar ← referenced e s name identifier
      return some scalar.text
    | none => .ok (some raw)

/-- An attribute as an integer. -/
def integer (e : Expression) (s : Session) (name : String) : Result (Option Int64) :=
  match e.attribute? name with
  | none => .ok none
  | some raw =>
    match reference? raw with
    | some identifier => do
      let scalar ← referenced e s name identifier
      match scalar.int64? with
      | some n => return some n
      | none => invalid e name (.referenceKind identifier scalar.kind)
    | none =>
      match Integer.read (Text.trim raw) with
      | .ok n => .ok (some n)
      | .error _ => invalid e name (.notInteger raw)

/-- An attribute as a number. -/
def float (e : Expression) (s : Session) (name : String) : Result (Option Float) :=
  match e.attribute? name with
  | none => .ok none
  | some raw =>
    match reference? raw with
    | some identifier => do
      let scalar ← referenced e s name identifier
      match scalar.number? with
      | some x => return some x
      | none => invalid e name (.referenceKind identifier scalar.kind)
    | none =>
      match Scalar.readFloat? raw with
      | some x => .ok (some x)
      | none => invalid e name (.notNumber raw)

/-- One word of a list of numbers. -/
def listItem (e : Expression) (s : Session) (name word : String) : Result Float :=
  match reference? word with
  | some identifier => do
    let scalar ← referenced e s name identifier
    match scalar.number? with
    | some x => return x
    | none => invalid e name (.referenceNumber identifier)
  | none =>
    match Scalar.readFloat? word with
    | some x => .ok x
    | none => invalid e name (.notNumber word)

/-- The words of a list of numbers, in order. -/
def listItems (e : Expression) (s : Session) (name : String) : List String → Result (List Float)
  | [] => .ok []
  | word :: rest => do
    let x ← listItem e s name word
    let xs ← listItems e s name rest
    return x :: xs

/-- An attribute as a list of numbers with blanks between them. -/
def floatList (e : Expression) (s : Session) (name : String) : Result (Option (List Float)) :=
  match e.attribute? name with
  | none => .ok none
  | some raw => (listItems e s name (Text.words raw)).map some

/-- An attribute as a truth value, with the value that counts when it is missing. -/
def boolean (e : Expression) (name : String) (default : Bool) : Result Bool :=
  match e.attribute? name with
  | none => .ok default
  | some raw =>
    let word := Text.trim raw
    if word = "true" then .ok true
    else if word = "false" then .ok false
    else invalid e name (.notBoolean word)

end ItemScoring.Attribute
