/-!
# Cardinalities

A cardinality says how many scalars a value is made of, and how they are arranged.
-/

set_option autoImplicit false

namespace ItemScoring

/-- The arrangement of the scalars of a value. -/
inductive Cardinality where
  /-- One scalar. -/
  | single
  /-- A collection in which order does not count. -/
  | multiple
  /-- A sequence. -/
  | ordered
  /-- Named fields, each a value of its own. -/
  | record
  deriving DecidableEq, Repr

namespace Cardinality

/-- Every cardinality. -/
def all : List Cardinality := [.single, .multiple, .ordered, .record]

/-- The name of a cardinality. -/
def name : Cardinality → String
  | .single => "single"
  | .multiple => "multiple"
  | .ordered => "ordered"
  | .record => "record"

/-- The cardinality with the given name. -/
def ofName? (s : String) : Option Cardinality := all.find? fun c => c.name = s

/-- Whether values of this cardinality hold a list of scalars. -/
def isContainer : Cardinality → Bool
  | .multiple => true
  | .ordered => true
  | _ => false

/-- Every cardinality is found by its name. -/
theorem ofName?_name (c : Cardinality) : ofName? c.name = some c := by
  cases c <;> decide

end Cardinality

end ItemScoring
