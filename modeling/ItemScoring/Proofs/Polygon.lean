import Mathlib.Algebra.Ring.Parity
import Mathlib.Data.List.Rotate
import ItemScoring.Shape

/-!
# Polygons by their edges

The edges of a polygon lead to each vertex from the one before it, and to the first from the last. A
point is inside when it lies on an edge, or when the ray from it crosses an odd number of edges
(`insidePolygon_iff`). That depends on the edges only up to their order, and beginning at another
vertex turns the list of edges round as it does the list of vertices.
-/

set_option autoImplicit false

namespace ItemScoring.Shape

/-- An edge, by its end and its start. -/
abbrev Edge := PlanePoint × PlanePoint

/-- The edges of a polygon: each vertex with the one before it, and the first one with the last. -/
def edges (vertices : List PlanePoint) : List Edge :=
  vertices.zip (vertices.rotate (vertices.length - 1))

theorem length_rotate_pred (vertices : List PlanePoint) :
    vertices.length = (vertices.rotate (vertices.length - 1)).length :=
  (List.length_rotate _ _).symm

/-- Beginning at another vertex, the same edges are followed in turn. -/
theorem edges_rotate (vertices : List PlanePoint) (k : Nat) :
    edges (vertices.rotate k) = (edges vertices).rotate k := by
  unfold edges
  rw [List.length_rotate, List.rotate_rotate, Nat.add_comm, ← List.rotate_rotate]
  exact (List.zipWith_rotate_distrib Prod.mk _ _ k (length_rotate_pred vertices)).symm

/-- The first edge starts at the last vertex, and each other one where the edge before it ends. -/
theorem edges_eq_zip {vertices : List PlanePoint} {last : PlanePoint}
    (h : vertices.getLast? = some last) : edges vertices = vertices.zip (last :: vertices) := by
  obtain ⟨before, rfl⟩ := List.getLast?_eq_some_iff.1 h
  have turned : (before ++ [last]).rotate ((before ++ [last]).length - 1) = last :: before := by
    rw [List.length_append, List.length_singleton, Nat.add_sub_cancel,
      List.rotate_append_length_eq]
    rfl
  have surplus : (before ++ [last] ++ []).zip (last :: before ++ [last]) =
      (before ++ [last]).zip (last :: before) ++ List.zip [] [last] :=
    List.zip_append (by simp)
  rw [List.append_nil, List.zip_nil_left, List.append_nil] at surplus
  rw [edges, turned, ← surplus, List.cons_append]

/-- A step along an edge changes sides when the ray crosses the edge, and ends on it. -/
theorem insideFrom_cons (p previous vertex : PlanePoint) (inside : Bool) (rest : List PlanePoint) :
    insideFrom p previous inside (vertex :: rest) = true ↔ onSegment vertex previous p = true ∨
      insideFrom p vertex (inside != crosses vertex previous p) rest = true := by
  rw [insideFrom]
  cases onSegment vertex previous p <;> simp

/-- Along all edges the point is found inside when it lies on one of them, or when the number of
edges that are crossed is even and it was inside at first, or odd and it was not. -/
theorem insideFrom_iff (p previous : PlanePoint) (inside : Bool) (vertices : List PlanePoint) :
    insideFrom p previous inside vertices = true ↔
      (∃ e ∈ vertices.zip (previous :: vertices), onSegment e.1 e.2 p = true) ∨
        (inside = true ↔
          Even ((vertices.zip (previous :: vertices)).countP fun e => crosses e.1 e.2 p)) := by
  induction vertices generalizing previous inside with
  | nil => simp [insideFrom]
  | cons vertex rest ih =>
      rw [insideFrom_cons, ih, List.zip_cons_cons, List.countP_cons, List.exists_mem_cons_iff,
        or_assoc]
      refine or_congr_right (or_congr_right ?_)
      cases inside <;> cases crosses vertex previous p <;> simp [Nat.even_add_one]

/-- A point is inside a polygon when it lies on an edge, or when the ray from it crosses an odd
number of edges. -/
theorem insidePolygon_iff (vertices : List PlanePoint) (p : PlanePoint) :
    insidePolygon vertices p = true ↔ (∃ e ∈ edges vertices, onSegment e.1 e.2 p = true) ∨
      Odd ((edges vertices).countP fun e => crosses e.1 e.2 p) := by
  unfold insidePolygon
  cases h : vertices.getLast? with
  | none =>
      obtain rfl := List.getLast?_eq_none_iff.1 h
      simp [edges]
  | some last =>
      rw [edges_eq_zip h, ← Nat.not_even_iff_odd]
      simpa using insideFrom_iff p last false vertices

/-- Whether a point is inside a polygon does not depend on the vertex at which the polygon begins.
-/
theorem contains_polygon_rotate (vertices : List PlanePoint) (k : Nat) (p : PlanePoint) :
    (polygon (vertices.rotate k)).contains p = (polygon vertices).contains p := by
  have turned := List.rotate_perm (edges vertices) k
  change insidePolygon _ p = insidePolygon _ p
  rw [Bool.eq_iff_iff, insidePolygon_iff, insidePolygon_iff, edges_rotate, turned.countP_eq]
  simp only [turned.mem_iff]

end ItemScoring.Shape
