import ItemScoring.LoadError
import ItemScoring.Numeric.Numeral
import ItemScoring.Text.Blank
/-!
# Shapes

Areas of a picture: rectangles, circles, ellipses, polygons and the whole picture. A point on the
edge of a shape belongs to it. A polygon is tested by counting the edges that a ray from the point
crosses.
-/

set_option autoImplicit false

namespace ItemScoring

/-- A point of the plane. -/
abbrev PlanePoint := Float × Float

/-- An area of a picture. -/
inductive Shape where
  /-- The whole picture. -/
  | everywhere
  /-- A rectangle, by its sides. -/
  | rect (left top right bottom : Float)
  /-- A circle, by its centre and radius. -/
  | circle (x y radius : Float)
  /-- An ellipse, by its centre and half axes. -/
  | ellipse (x y horizontal vertical : Float)
  /-- A polygon, by its vertices in order; the last one may repeat the first. -/
  | polygon (vertices : List PlanePoint)

namespace Shape

/-- Whether a point lies on the line segment between two others, up to rounding. -/
def onSegment (a b p : PlanePoint) : Bool :=
  let cross := (b.1 - a.1) * (p.2 - a.2) - (b.2 - a.2) * (p.1 - a.1)
  if cross.abs > Float.ofBits 0x3cb0000000000000 then false
  else
    p.1 ≥ Binary64.least a.1 b.1 && p.1 ≤ Binary64.greatest a.1 b.1
      && p.2 ≥ Binary64.least a.2 b.2 && p.2 ≤ Binary64.greatest a.2 b.2

/-- Whether the horizontal ray from a point to the right crosses an edge, given by its end and its
start. -/
def crosses (finish start p : PlanePoint) : Bool :=
  if decide (finish.2 > p.2) != decide (start.2 > p.2) then
    p.1 < (start.1 - finish.1) * (p.2 - finish.2) / (start.2 - finish.2) + finish.1
  else false

/-- Follow the edges that end in the given vertices, the first of them starting in `previous`.
A point on an edge is inside; else every crossing changes sides. -/
def insideFrom (p : PlanePoint) (previous : PlanePoint) (inside : Bool) :
    List PlanePoint → Bool
  | [] => inside
  | vertex :: rest =>
    if onSegment vertex previous p then true
    else insideFrom p vertex (inside != crosses vertex previous p) rest

/-- Whether a point lies inside or on the edge of a polygon. -/
def insidePolygon (vertices : List PlanePoint) (p : PlanePoint) : Bool :=
  match vertices.getLast? with
  | none => false
  | some last => insideFrom p last false vertices

/-- Whether a point lies inside or on the edge of a shape. -/
def contains (shape : Shape) (p : PlanePoint) : Bool :=
  match shape with
  | .everywhere => true
  | .rect left top right bottom =>
    p.1 ≥ left && p.1 ≤ right && p.2 ≥ top && p.2 ≤ bottom
  | .circle x y radius =>
    let dx := p.1 - x
    let dy := p.2 - y
    dx * dx + dy * dy ≤ radius * radius
  | .ellipse x y horizontal vertical =>
    if horizontal ≤ 0 || vertical ≤ 0 then false
    else
      let dx := (p.1 - x) / horizontal
      let dy := (p.2 - y) / vertical
      dx * dx + dy * dy ≤ 1
  | .polygon vertices => insidePolygon vertices p

/-- Read coordinates one after the other. -/
def readCoordinates : List (List Char) → Except ShapeFault (List Float)
  | [] => .ok []
  | piece :: rest =>
    match Binary64.readChars? piece with
    | none => .error (.coordinate (String.ofList piece))
    | some x => (readCoordinates rest).map (x :: ·)

/-- The numbers of a list with commas; blank pieces are left out. -/
def coordinates (text : String) : Except ShapeFault (List Float) :=
  readCoordinates
    (((Text.piecesChars ',' text.toList).map Text.trimChars).filter fun piece => !piece.isEmpty)

/-- Take coordinates two by two. -/
def points : List Float → List PlanePoint
  | x :: y :: rest => (x, y) :: points rest
  | _ => []

/-- The shape with the given name and coordinates. Faulty coordinates are reported first. -/
def ofCoordinates (name coords : String) : Except ShapeFault Shape := do
  let numbers ← coordinates coords
  let wrong (expected : String) : Except ShapeFault Shape := .error (.count name expected coords)
  if name = "default" then .ok .everywhere
  else if name = "rect" then
    match numbers with
    | [x, y, v, w] =>
      .ok
        (.rect (Binary64.least x v) (Binary64.least y w) (Binary64.greatest x v)
          (Binary64.greatest y w))
    | _ => wrong "4 coordinates"
  else if name = "circle" then
    match numbers with
    | [x, y, r] => .ok (.circle x y r)
    | _ => wrong "3 coordinates"
  else if name = "ellipse" then
    match numbers with
    | [x, y, h, v] => .ok (.ellipse x y h v)
    | _ => wrong "4 coordinates"
  else if name = "poly" then
    if numbers.length < 6 ∨ numbers.length % 2 ≠ 0 then wrong "at least 3 coordinate pairs"
    else .ok (.polygon (points numbers))
  else .error (.unknown name)

end Shape

end ItemScoring
