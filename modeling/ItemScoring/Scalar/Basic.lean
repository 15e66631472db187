import ItemScoring.BaseType
import ItemScoring.Duration
import ItemScoring.Json.Basic
/-!
# Scalars

A scalar is one indivisible value. A scalar of base type `intOrIdentifier` is an integer or an
identifier, and a scalar of base type `integer` may be a floating-point number where an integer was
expected and none could be read. The module fixes the views of a scalar, its text, its JSON form,
the agreement of two scalars and the order in which unordered collections are sorted.
-/

set_option autoImplicit false

namespace ItemScoring

/-- One indivisible value. -/
inductive Scalar where
  /-- A name. -/
  | identifier (name : String)
  /-- A truth value. -/
  | boolean (b : Bool)
  /-- An integer. -/
  | integer (n : Int64)
  /-- A floating-point number, as its bit pattern. -/
  | float (x : Binary64)
  /-- A text. -/
  | string (s : String)
  /-- A point. -/
  | point (x y : Int64)
  /-- Two names whose order does not count. -/
  | pair (a b : String)
  /-- Two names in order. -/
  | directedPair (a b : String)
  /-- A length of time. -/
  | duration (d : Duration)
  /-- The contents of a file. -/
  | file (contents : String)
  /-- A resource identifier. -/
  | uri (u : String)

namespace Scalar

/-- The name of the kind of a scalar. -/
def kind : Scalar → String
  | .identifier _ => "identifier"
  | .boolean _ => "boolean"
  | .integer _ => "integer"
  | .float _ => "float"
  | .string _ => "string"
  | .point _ _ => "point"
  | .pair _ _ => "pair"
  | .directedPair _ _ => "directedPair"
  | .duration _ => "duration"
  | .file _ => "file"
  | .uri _ => "uri"

/-- The truth value of a boolean. -/
def bool? : Scalar → Option Bool
  | .boolean b => some b
  | _ => none

/-- The number that an integer or a floating-point number stands for. -/
def number? : Scalar → Option Float
  | .integer n => some (Binary64.ofInteger n.toInt)
  | .float x => some x.toFloat
  | _ => none

/-- The integer of an integer. -/
def int64? : Scalar → Option Int64
  | .integer n => some n
  | _ => none

/-- The text of a scalar that is a text of some kind. -/
def text? : Scalar → Option String
  | .identifier s => some s
  | .string s => some s
  | .file s => some s
  | .uri s => some s
  | _ => none

/-- The duration of a duration. -/
def duration? : Scalar → Option Duration
  | .duration d => some d
  | _ => none

/-- Whether a scalar is an integer or a finite floating-point number. -/
def isNumber : Scalar → Bool
  | .integer _ => true
  | .float x => x.toFloat.isFinite
  | _ => false

/-- The text of a scalar. -/
def text : Scalar → String
  | .identifier s => s
  | .boolean b => if b then "true" else "false"
  | .integer n => Integer.text n.toInt
  | .float x => Binary64.textWith "INF" "-INF" x.toFloat
  | .string s => s
  | .point x y => Integer.text x.toInt ++ " " ++ Integer.text y.toInt
  | .pair a b => a ++ " " ++ b
  | .directedPair a b => a ++ " " ++ b
  | .duration d => Binary64.text d.toSeconds
  | .file s => s
  | .uri s => s

/-- The JSON form of a number; JSON has no infinities, and words stand for them. -/
def numberJson (x : Float) : Json :=
  if x.isFinite then .number (.float x) else .string (Binary64.textWith "INF" "-INF" x)

/-- The JSON form of a scalar. Points and pairs are written as text, and a duration as seconds. -/
def toJson : Scalar → Json
  | .boolean b => .bool b
  | .integer n => .ofInt n.toInt
  | .float x => numberJson x.toFloat
  | .duration d => numberJson d.toSeconds
  | s => .string s.text

/-- Whether two scalars are equal as values: they are of one kind and have equal parts, where the
parts of a pair may change places and a floating-point comparison decides about numbers. -/
def agrees : Scalar → Scalar → Bool
  | .identifier a, .identifier b => a == b
  | .boolean a, .boolean b => a == b
  | .integer a, .integer b => a == b
  | .float a, .float b => a.toFloat == b.toFloat
  | .string a, .string b => a == b
  | .point x y, .point v w => x == v && y == w
  | .pair a b, .pair c d => (a == c && b == d) || (a == d && b == c)
  | .directedPair a b, .directedPair c d => a == c && b == d
  | .duration a, .duration b => a == b
  | .file a, .file b => a == b
  | .uri a, .uri b => a == b
  | _, _ => false

/-- The place of a kind among the kinds. -/
def rank : Scalar → Nat
  | .identifier _ => 0
  | .boolean _ => 1
  | .integer _ => 2
  | .float _ => 3
  | .string _ => 4
  | .point _ _ => 5
  | .pair _ _ => 6
  | .directedPair _ _ => 7
  | .duration _ => 8
  | .file _ => 9
  | .uri _ => 10

/-- The parts of a pair, the lesser one first. -/
def sortedPair (a b : String) : String × String :=
  if a ≤ b then (a, b) else (b, a)

/-- Compare two pairs of texts, by their first parts and then by their second parts. -/
def comparePairs (p q : String × String) : Ordering :=
  (compare p.1 q.1).then (compare p.2 q.2)

/-- The order in which unordered collections are sorted: by kind, and within a kind by the parts.
Numbers are compared by the total order of bit patterns. -/
def order : Scalar → Scalar → Ordering
  | .identifier a, .identifier b => compare a b
  | .boolean a, .boolean b => compare a.toNat b.toNat
  | .integer a, .integer b => compare a.toInt b.toInt
  | .float a, .float b => Binary64.order a b
  | .string a, .string b => compare a b
  | .point x y, .point v w => (compare x.toInt v.toInt).then (compare y.toInt w.toInt)
  | .pair a b, .pair c d => comparePairs (sortedPair a b) (sortedPair c d)
  | .directedPair a b, .directedPair c d => comparePairs (a, b) (c, d)
  | .duration a, .duration b => compare a.nanoseconds b.nanoseconds
  | .file a, .file b => compare a b
  | .uri a, .uri b => compare a b
  | a, b => compare a.rank b.rank

/-- Sort the scalars of an unordered collection; scalars of equal rank keep their places. -/
def sort (scalars : List Scalar) : List Scalar :=
  scalars.mergeSort fun a b => (order a b).isLE

end Scalar

end ItemScoring
