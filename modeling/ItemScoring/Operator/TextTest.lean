import ItemScoring.Operator.Basic
import ItemScoring.Text.LetterCase
/-!
# Tests of texts

Texts are compared, searched for and matched with a pattern. Where case does not count, texts are
put in lower case first.
-/

set_option autoImplicit false

namespace ItemScoring.TextTest

/-- The text of the operand at an index. -/
def text? (i : Invocation) (index : Nat) : Option (List Char) :=
  ((i.scalar? index).bind Scalar.text?).map String.toList

/-- A text as it is compared. -/
def normalize (caseSensitive : Bool) (cs : List Char) : List Char :=
  if caseSensitive then cs else Text.lowerChars cs

/-- Test the texts of two operands; NULL when either is none. -/
def testTexts (caseSensitive : Bool) (test : List Char → List Char → Bool) (i : Invocation) :
    Operand :=
  match text? i 0, text? i 1 with
  | some a, some b => .boolean (test (normalize caseSensitive a) (normalize caseSensitive b))
  | _, _ => .null .boolean

/-- Whether two texts are equal, or the first occurs inside the second. -/
def stringMatch (i : Invocation) : Result Operand := do
  let _ ← Attribute.required i.expression "caseSensitive"
  let caseSensitive ← Attribute.boolean i.expression "caseSensitive" true
  let substring ← Attribute.boolean i.expression "substring" false
  return testTexts caseSensitive (fun a b => if substring then Text.occursIn a b else a == b) i

/-- Whether the first text occurs inside the second. -/
def substring (i : Invocation) : Result Operand := do
  let caseSensitive ← Attribute.boolean i.expression "caseSensitive" true
  return testTexts caseSensitive Text.occursIn i

/-- Whether a text matches a pattern of a language, which is put between the conditions that nothing
comes before and after. -/
def patternMatch (language : PatternLanguage) (i : Invocation) : Result Operand := do
  let read ← Attribute.string i.expression i.session "pattern"
  let pattern ← Attribute.require i.expression "pattern" read
  match language.compile? (Pattern.anchored pattern.toList) with
  | none => Attribute.invalid i.expression "pattern" .pattern
  | some test =>
    match text? i 0 with
    | some cs => return .boolean (test cs)
    | none => return .null .boolean

end ItemScoring.TextTest
