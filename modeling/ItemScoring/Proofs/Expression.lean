import ItemScoring.Expression

/-!
# Induction over expressions

The nodes of an expression are the expression itself and the nodes of its children. A property that
passes from the children of a node to the node holds of every expression. The place of a node is its
index in the list of nodes, counted on from the place of the expression.
-/

set_option autoImplicit false

namespace ItemScoring.Expression

/-- A property that passes from the children of a node to the node holds of every expression. -/
theorem induction {P : Expression → Prop}
    (node : ∀ e : Expression, (∀ c ∈ e.children, P c) → P e) (e : Expression) : P e := by
  refine Expression.rec (motive_1 := P) (motive_2 := fun es => ∀ c ∈ es, P c) ?_ ?_ ?_ e
  · exact fun tag attributes children literal ih => node ⟨tag, attributes, children, literal⟩ ih
  · exact fun c hc => nomatch hc
  · intro first rest hfirst hrest c hc
    rcases List.mem_cons.1 hc with rfl | hc
    · exact hfirst
    · exact hrest c hc

mutual

/-- The nodes of an expression, each before its children. -/
def nodes : Expression → List Expression
  | ⟨tag, attributes, children, literal⟩ =>
    ⟨tag, attributes, children, literal⟩ :: nodesOfAll children
termination_by structural e => e

/-- The nodes of expressions, in order. -/
def nodesOfAll : List Expression → List Expression
  | [] => []
  | e :: rest => nodes e ++ nodesOfAll rest
termination_by structural es => es

end

theorem mem_nodesOfAll {d : Expression} {es : List Expression} :
    d ∈ nodesOfAll es ↔ ∃ c ∈ es, d ∈ c.nodes := by
  induction es with
  | nil => simp [nodesOfAll]
  | cons e rest ih => simp [nodesOfAll, ih]

/-- A node is the expression itself or a node of a child. -/
theorem mem_nodes {d e : Expression} :
    d ∈ e.nodes ↔ d = e ∨ ∃ c ∈ e.children, d ∈ c.nodes := by
  obtain ⟨tag, attributes, children, literal⟩ := e
  rw [nodes, List.mem_cons, mem_nodesOfAll]

theorem length_nodesOfAll_of_forall {es : List Expression}
    (each : ∀ e ∈ es, e.nodes.length = e.size) : (nodesOfAll es).length = sizeOfAll es := by
  induction es with
  | nil => rfl
  | cons e rest ih =>
      obtain ⟨first, others⟩ := List.forall_mem_cons.1 each
      rw [nodesOfAll, sizeOfAll, List.length_append, first, ih others]

/-- There are as many nodes as there are places. -/
theorem length_nodes (e : Expression) : e.nodes.length = e.size := by
  induction e using induction with
  | node e ih =>
      obtain ⟨tag, attributes, children, literal⟩ := e
      rw [nodes, size, List.length_cons, length_nodesOfAll_of_forall ih]

theorem self_mem_nodes (e : Expression) : e ∈ e.nodes := mem_nodes.2 (.inl rfl)

theorem mem_nodes_of_child {c d e : Expression} (child : c ∈ e.children) (h : d ∈ c.nodes) :
    d ∈ e.nodes := mem_nodes.2 (.inr ⟨c, child, h⟩)

/-! ## Places -/

/-- Expressions with their places, the first of them at the given place. -/
def placed : Nat → List Expression → List (Expression × Nat)
  | _, [] => []
  | place, e :: rest => (e, place) :: placed (place + e.size) rest

theorem mem_of_mem_placed {place : Nat} {es : List Expression} {c : Expression × Nat}
    (h : c ∈ placed place es) : c.1 ∈ es := by
  induction es generalizing place with
  | nil => cases h
  | cons e rest ih =>
      rcases List.mem_cons.1 h with rfl | h
      · exact List.mem_cons_self
      · exact List.mem_cons_of_mem _ (ih h)

/-- The nodes of an expression that stands at the given place, with their places. -/
def nodesFrom (place : Nat) (e : Expression) : List (Expression × Nat) := e.nodes.zipIdx place

theorem mem_nodesOfAll_zipIdx {place : Nat} {es : List Expression} {c d : Expression × Nat}
    (child : c ∈ placed place es) (h : d ∈ c.1.nodesFrom c.2) :
    d ∈ (nodesOfAll es).zipIdx place := by
  induction es generalizing place with
  | nil => cases child
  | cons e rest ih =>
      rw [nodesOfAll, List.zipIdx_append, length_nodes]
      rcases List.mem_cons.1 child with rfl | child
      · exact List.mem_append_left _ h
      · exact List.mem_append_right _ (ih child)

theorem self_mem_nodesFrom (place : Nat) (e : Expression) : (e, place) ∈ e.nodesFrom place := by
  obtain ⟨tag, attributes, children, literal⟩ := e
  rw [nodesFrom, nodes, List.zipIdx_cons]
  exact List.mem_cons_self

/-- The nodes of a child keep their places in the expression around it. -/
theorem mem_nodesFrom_of_child {place : Nat} {e : Expression} {c d : Expression × Nat}
    (child : c ∈ placed (place + 1) e.children) (h : d ∈ c.1.nodesFrom c.2) :
    d ∈ e.nodesFrom place := by
  obtain ⟨tag, attributes, children, literal⟩ := e
  rw [nodesFrom, nodes, List.zipIdx_cons]
  exact List.mem_cons_of_mem _ (mem_nodesOfAll_zipIdx child h)

end ItemScoring.Expression
