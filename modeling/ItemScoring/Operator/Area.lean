import ItemScoring.Operator.Basic
/-!
# Points in areas
-/

set_option autoImplicit false

namespace ItemScoring.Area

/-- The shape that an expression gives by its attributes. -/
def shape (e : Expression) : Result Shape := do
  let name ← Attribute.required e "shape"
  match Shape.ofCoordinates name ((e.attribute? "coords").getD "") with
  | .ok shape => return shape
  | .error fault => Attribute.invalid e "coords" (.shape fault)

/-- A point of the plane. -/
def planePoint (x y : Int64) : PlanePoint :=
  (Binary64.ofInteger x.toInt, Binary64.ofInteger y.toInt)

/-- Whether a scalar is a point of a shape. -/
def hits (shape : Shape) : Scalar → Bool
  | .point x y => shape.contains (planePoint x y)
  | _ => false

/-- Whether some point of the operand lies in the shape. -/
def inside (i : Invocation) : Result Operand := do
  let shape ← shape i.expression
  match i.operand? 0 with
  | none => return .null .boolean
  | some points => return .boolean (points.scalars.any (hits shape))

end ItemScoring.Area
