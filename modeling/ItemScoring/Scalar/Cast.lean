import ItemScoring.Duration.Reader
import ItemScoring.Json.Printer
import ItemScoring.Scalar.Basic
/-!
# Making scalars

Scalars are made from text, from JSON and from other scalars. Reading a number never fails: a text
that is none becomes the floating-point value that is no number, and the operators on numbers leave
it out. The structured base types refuse a text that does not fit.
-/

set_option autoImplicit false

namespace ItemScoring.Scalar

/-- What stands for a number that cannot be read. -/
def notNumber : Scalar := .float (.ofFloat (0 / 0))

/-- The integer that a text begins with, after blanks. -/
def leadingInteger? (raw : String) : Option Int64 :=
  Integer.leadingChars? (raw.toList.dropWhile Text.isBlank)

/-- The floating-point number that a text denotes, with any blanks around it. -/
def readFloat? (raw : String) : Option Float :=
  Binary64.readChars? (Text.trimChars raw.toList)

/-- The bit pattern of the number that a text denotes, with any blanks around it. -/
def readPattern? (raw : String) : Option Binary64 :=
  Binary64.readPattern? (Text.trimChars raw.toList)

/-- The two words that a text is made of. -/
def twoWords (baseType : BaseType) (raw : String) : Except LoadError (String × String) :=
  match Text.words raw with
  | [a, b] => .ok (a, b)
  | _ => .error (.cast baseType raw .notTwoWords)

/-- A coordinate of a point. -/
def readCoordinate (raw word : String) : Except LoadError Int64 :=
  match Integer.read word with
  | .ok n => .ok n
  | .error fault => .error (.cast .point raw (.coordinate fault))

/-- Read a truth value. -/
def readBoolean (raw : String) : Except LoadError Scalar :=
  let word := Text.trim raw
  if word = "true" ∨ word = "1" then .ok (.boolean true)
  else if word = "false" ∨ word = "0" then .ok (.boolean false)
  else .error (.cast .boolean raw .notTruthValue)

/-- Read an integer that fills the text, or else take the text as an identifier. -/
def readIntOrIdentifier (raw : String) : Scalar :=
  let word := Text.trim raw
  match Integer.read word with
  | .ok n => .integer n
  | .error _ => .identifier word

/-- Read a scalar of a base type. -/
def read (baseType : BaseType) (raw : String) : Except LoadError Scalar :=
  match baseType with
  | .integer => .ok ((leadingInteger? raw).elim notNumber .integer)
  | .float => .ok ((readPattern? raw).elim notNumber .float)
  | .boolean => readBoolean raw
  | .identifier => .ok (.identifier (Text.trim raw))
  | .string => .ok (.string raw)
  | .uri => .ok (.uri (Text.trim raw))
  | .file => .ok (.file raw)
  | .point => do
    let (a, b) ← twoWords .point raw
    let x ← readCoordinate raw a
    let y ← readCoordinate raw b
    return .point x y
  | .pair => do
    let (a, b) ← twoWords .pair raw
    return .pair a b
  | .directedPair => do
    let (a, b) ← twoWords .directedPair raw
    return .directedPair a b
  | .duration => do
    let d ← Duration.read raw
    return .duration d
  | .intOrIdentifier => .ok (readIntOrIdentifier raw)

/-- The integer of a number: an integer in range, or the whole part of any other number whose
magnitude is below `2 ^ 63`. -/
def integerOfNumber (n : Json.Number) : Scalar :=
  match n.toInt64? with
  | some i => .integer i
  | none =>
    match Binary64.decode? n.toFloat with
    | none => notNumber
    | some d =>
      let whole := d.toInteger .towardZero
      if whole.natAbs < Integer.bound then .integer (Int64.ofInt whole) else notNumber

/-- Make a scalar from a JSON number. A base type that is not about numbers takes its text. -/
def ofNumber (baseType : BaseType) (n : Json.Number) : Except LoadError Scalar :=
  let raw := String.ofList n.chars
  match baseType with
  | .integer => .ok (integerOfNumber n)
  | .intOrIdentifier => .ok (integerOfNumber n)
  | .float => .ok (.float (.ofFloat n.toFloat))
  | .boolean =>
    if n.toFloat == 0 then .ok (.boolean false)
    else if n.toFloat == 1 then .ok (.boolean true)
    else .error (.cast .boolean raw .notZeroOrOne)
  | .duration =>
    match Duration.inRange n.toFloat with
    | .ok d => .ok (.duration d)
    | .error fault => .error (.cast .duration raw fault)
  | _ => read baseType raw

/-- Make a scalar from a JSON truth value. A base type that is not about numbers takes its text. -/
def ofBool (baseType : BaseType) (b : Bool) : Except LoadError Scalar :=
  match baseType with
  | .boolean => .ok (.boolean b)
  | .integer => .ok (.integer (if b then 1 else 0))
  | .float => .ok (.float (.ofFloat (if b then 1 else 0)))
  | _ => read baseType (if b then "true" else "false")

/-- Make a scalar from JSON. An array of two items is read as the text of the items with a blank
between them; of the other compounds, only the contents of a file can be made. -/
def ofJson (baseType : BaseType) (raw : Json) : Except LoadError Scalar :=
  match raw with
  | .string s => read baseType s
  | .number n => ofNumber baseType n
  | .bool b => ofBool baseType b
  | .array [a, b] => read baseType (a.plainText ++ " " ++ b.plainText)
  | .null => .error (.cast baseType "null" .null)
  | other =>
    if baseType = .file then .ok (.file other.compact)
    else .error (.cast baseType other.compact .kind)

/-- Whether a scalar is of a kind that values of a base type hold. -/
def fits (baseType : BaseType) (s : Scalar) : Bool :=
  match baseType, s with
  | .identifier, .identifier _ => true
  | .boolean, .boolean _ => true
  | .integer, .integer _ => true
  | .integer, .float _ => true
  | .float, .float _ => true
  | .string, .string _ => true
  | .point, .point _ _ => true
  | .pair, .pair _ _ => true
  | .directedPair, .directedPair _ _ => true
  | .duration, .duration _ => true
  | .file, .file _ => true
  | .uri, .uri _ => true
  | .intOrIdentifier, .integer _ => true
  | .intOrIdentifier, .identifier _ => true
  | _, _ => false

/-- Make a scalar of another kind fit a base type, through its text; a scalar whose text does not
fit is kept. -/
def recast (baseType : BaseType) (s : Scalar) : Scalar :=
  if s.fits baseType then s
  else
    match baseType, s with
    | .float, .integer n => .float (.ofFloat (Binary64.ofInteger n.toInt))
    | _, _ =>
      match read baseType s.text with
      | .ok t => t
      | .error _ => s

end ItemScoring.Scalar
