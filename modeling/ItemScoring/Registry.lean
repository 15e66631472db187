import ItemScoring.Leaf
import ItemScoring.Operator.Arithmetic
import ItemScoring.Operator.Comparison
import ItemScoring.Operator.Container
import ItemScoring.Operator.Custom
import ItemScoring.Operator.Function
import ItemScoring.Operator.Logic
import ItemScoring.Operator.Statistics
import ItemScoring.Operator.TextTest
/-!
# The registry of expressions

A registry says, for each tag, how expressions with that tag are evaluated: directly, or by
evaluating the children first, checking the values against a contract and combining them.
-/

set_option autoImplicit false

namespace ItemScoring

/-- How expressions with a tag are evaluated. -/
inductive Processor where
  /-- Directly, without evaluating children. -/
  | leaf (evaluate : Host → Chance → Expression → Session → Result Operand)
  /-- By combining the values of the children, which have to keep a contract. -/
  | operator (contract : Contract) (process : Host → Chance → Invocation → Result Operand)

/-- How expressions are evaluated, by tag. -/
structure Registry where
  /-- The processors, sorted by tag. -/
  processors : List (String × Processor)
  /-- Tags increase strictly. -/
  sorted : Keyed.Sorted processors

namespace Registry

/-- The registry that has the given processors. -/
def ofList (processors : List (String × Processor)) : Registry :=
  ⟨Keyed.ofList processors, Keyed.sorted_ofList processors⟩

/-- The processor of a tag. -/
def find? (r : Registry) (tag : String) : Option Processor := r.processors.lookup tag

/-- The tags, sorted. -/
def tags (r : Registry) : List String := r.processors.map (·.1)

/-- The registry with the processors of some tags only. -/
def restrict (r : Registry) (keep : String → Bool) : Registry where
  processors := r.processors.filter fun entry => keep entry.1
  sorted := r.sorted.filter _

/-- A leaf expression that does not ask the host. -/
def leafOf (evaluate : Expression → Session → Result Operand) : Processor :=
  .leaf fun _ _ => evaluate

/-- An operator that does not ask the host. -/
def operatorOf (least : Nat) (most : Option Nat) (cardinalities : List Cardinality)
    (baseTypes : List BaseType) (process : Invocation → Result Operand) : Processor :=
  .operator ⟨least, most, cardinalities, baseTypes⟩ fun _ _ => process

/-- The leaf expressions. -/
def leaves : List (String × Processor) :=
  [("baseValue", leafOf Leaf.baseValue), ("variable", leafOf Leaf.currentValue),
    ("correct", leafOf Leaf.correctResponse), ("default", leafOf Leaf.defaultValue),
    ("null", leafOf Leaf.nothing), ("mathConstant", leafOf Leaf.mathConstant),
    ("mapResponse", leafOf Leaf.mapResponse), ("mapResponsePoint", leafOf Leaf.mapResponsePoint),
    ("randomInteger", .leaf fun _ => Leaf.randomInteger),
    ("randomFloat", .leaf fun _ => Leaf.randomFloat)]

/-- The operators on truth values. -/
def logic : List (String × Processor) :=
  [("and", operatorOf 1 none [.single] [.boolean] Logic.and),
    ("or", operatorOf 1 none [.single] [.boolean] Logic.or),
    ("not", operatorOf 1 (some 1) [.single] [.boolean] Logic.not),
    ("anyN", operatorOf 1 none [.single] [.boolean] Logic.anyN),
    ("isNull", operatorOf 1 (some 1) Cardinality.all BaseType.all Logic.isNull)]

/-- The comparisons. -/
def comparisons : List (String × Processor) :=
  [("equal", operatorOf 2 (some 2) [.single] BaseType.numeric Comparison.equal),
    ("equalRounded",
      .operator ⟨2, some 2, [.single], BaseType.numeric⟩ fun host _ =>
        Comparison.equalRounded host.decimals),
    ("lt", operatorOf 2 (some 2) [.single] BaseType.numeric Comparison.lt),
    ("gt", operatorOf 2 (some 2) [.single] BaseType.numeric Comparison.gt),
    ("lte", operatorOf 2 (some 2) [.single] BaseType.numeric Comparison.lte),
    ("gte", operatorOf 2 (some 2) [.single] BaseType.numeric Comparison.gte),
    ("durationLT", operatorOf 2 (some 2) [.single] [.duration] Comparison.durationLT),
    ("durationGTE", operatorOf 2 (some 2) [.single] [.duration] Comparison.durationGTE),
    ("match", operatorOf 2 (some 2) Cardinality.all BaseType.all Comparison.matchValues)]

/-- The cardinalities of single values, collections and sequences. -/
def singleOrContainer : List Cardinality := [.single, .multiple, .ordered]

/-- The arithmetic operators. -/
def arithmetic : List (String × Processor) :=
  [("sum", operatorOf 1 none singleOrContainer BaseType.numeric Arithmetic.sum),
    ("product", operatorOf 1 none singleOrContainer BaseType.numeric Arithmetic.product),
    ("subtract", operatorOf 2 (some 2) [.single] BaseType.numeric Arithmetic.subtract),
    ("divide", operatorOf 2 (some 2) [.single] BaseType.numeric Arithmetic.divide),
    ("power", operatorOf 2 (some 2) [.single] BaseType.numeric Arithmetic.power),
    ("integerDivide", operatorOf 2 (some 2) [.single] [.integer] Arithmetic.integerDivide),
    ("integerModulus", operatorOf 2 (some 2) [.single] [.integer] Arithmetic.integerModulus),
    ("integerToFloat", operatorOf 1 (some 1) [.single] [.integer] Arithmetic.integerToFloat),
    ("gcd", operatorOf 1 none singleOrContainer [.integer] Arithmetic.gcd),
    ("lcm", operatorOf 1 none singleOrContainer [.integer] Arithmetic.lcm),
    ("min", operatorOf 1 none singleOrContainer BaseType.numeric Arithmetic.min),
    ("max", operatorOf 1 none singleOrContainer BaseType.numeric Arithmetic.max)]

/-- The roundings, functions and statistics. -/
def functions : List (String × Processor) :=
  [("round", operatorOf 1 (some 1) [.single] BaseType.numeric Rounding.round),
    ("truncate", operatorOf 1 (some 1) [.single] BaseType.numeric Rounding.truncate),
    ("roundTo",
      .operator ⟨1, some 1, [.single], BaseType.numeric⟩ fun host _ =>
        Rounding.roundTo host.decimals),
    ("mathOperator", operatorOf 1 (some 2) [.single] BaseType.numeric Function.mathOperator),
    ("statsOperator",
      operatorOf 1 (some 1) [.multiple, .ordered] BaseType.numeric Statistics.statsOperator)]

/-- The operators on collections, sequences and records. -/
def containers : List (String × Processor) :=
  [("multiple", operatorOf 0 none [.single, .multiple] BaseType.all Container.multiple),
    ("ordered", operatorOf 0 none [.single, .ordered] BaseType.all Container.ordered),
    ("repeat", operatorOf 1 none [.single, .ordered] BaseType.all Container.repeated),
    ("containerSize",
      operatorOf 1 (some 1) [.multiple, .ordered] BaseType.all Container.containerSize),
    ("member", operatorOf 2 (some 2) singleOrContainer BaseType.all Container.member),
    ("contains", operatorOf 2 (some 2) [.multiple, .ordered] BaseType.all Container.contains),
    ("delete", operatorOf 2 (some 2) singleOrContainer BaseType.all Container.delete),
    ("index", operatorOf 1 (some 1) [.ordered] BaseType.all Container.index),
    ("fieldValue", operatorOf 1 (some 1) [.record] BaseType.all Container.fieldValue),
    ("random",
      .operator ⟨1, some 1, [.multiple, .ordered], BaseType.all⟩ fun _ => Container.random)]

/-- The tests of texts and points, and the operators of the host. -/
def tests : List (String × Processor) :=
  [("stringMatch", operatorOf 2 (some 2) [.single] [.string] TextTest.stringMatch),
    ("patternMatch",
      .operator ⟨1, some 1, [.single], [.string]⟩ fun host _ =>
        TextTest.patternMatch host.patterns),
    ("substring", operatorOf 2 (some 2) [.single] [.string] TextTest.substring),
    ("inside", operatorOf 1 (some 1) singleOrContainer [.point] Area.inside),
    ("customOperator", .operator .any fun host _ => customOperator host)]

/-- The registry of all expressions. -/
def standard : Registry :=
  ofList
    (leaves ++ logic ++ comparisons ++ arithmetic ++ functions ++ containers ++ tests)

end Registry

end ItemScoring
