import ItemScoring.Json.Basic
import ItemScoring.Text.Hexadecimal
/-!
# Reading JSON text

A reader takes one JSON value from the front of a text. Objects are sorted by name, and of several
members with one name the last counts. `Number.ofLiteral?` keeps the difference between the
spellings `3` and `3.0`. Decoding a literal into a floating-point number is left to a decoder.
-/

set_option autoImplicit false

namespace ItemScoring.Json

/-- Blanks between tokens. -/
def isSpace (c : Char) : Bool := c = ' ' || c = '\t' || c = '\n' || c = '\r'

/-- Drop the blanks in front. -/
def skipSpace (cs : List Char) : List Char := cs.dropWhile isSpace

/-- The characters that number literals are made of. -/
def isNumberChar (c : Char) : Bool :=
  c.isDigit || c = '-' || c = '+' || c = '.' || c = 'e' || c = 'E'

/-- The part of a literal after the whole digits is well-formed: a point has a digit after it, and
an exponent has a mark, an optional sign and a digit. -/
def isFractionTail (cs : List Char) : Bool :=
  let exponent (cs : List Char) : Bool := cs.isEmpty || (Binary64.exponentPart? cs).isSome
  match cs with
  | '.' :: rest => !(rest.takeWhile Char.isDigit).isEmpty && exponent (rest.dropWhile Char.isDigit)
  | rest => exponent rest

/-- A decoder of floating-point numbers. Decoders differ in how close they come to what is
written. -/
structure Decoder where
  /-- The number for a sign and the literal after it; none if that is out of range. -/
  decode? : Bool → List Char → Option Float

/-- The built-in decoder, which always comes closest. -/
def Decoder.nearest : Decoder where
  decode? negative cs :=
    ((Binary64.readUnsigned? cs).map (Binary64.signed negative)).filter Float.isFinite

/-- The number that an unsigned literal stands for: an integer when it has neither point nor
exponent and fits 64 bits, else a floating-point number. There is no integer `-0`. -/
def Number.ofUnsigned? (decoder : Decoder) (negative : Bool) (cs : List Char) : Option Number :=
  let whole := cs.takeWhile Char.isDigit
  let tail := cs.dropWhile Char.isDigit
  if whole.isEmpty || (whole.head? = some '0' && 1 < whole.length) || !isFractionTail tail then none
  else
    let n := Integer.digitsValue 0 whole
    let fits := if negative then n ≠ 0 ∧ n ≤ Integer.bound else n < 2 * Integer.bound
    if tail.isEmpty ∧ fits then some (.integer (Binary64.withSign negative n))
    else (decoder.decode? negative cs).map .float

/-- The number that a literal stands for. -/
def Number.ofLiteral? (decoder : Decoder) : List Char → Option Number
  | '-' :: cs => ofUnsigned? decoder true cs
  | cs => ofUnsigned? decoder false cs

/-- Four hexadecimal digits in front of a text. -/
def hexUnit? : List Char → Option (Nat × List Char)
  | a :: b :: c :: d :: rest => do
    let a ← Text.hexDigit? a
    let b ← Text.hexDigit? b
    let c ← Text.hexDigit? c
    let d ← Text.hexDigit? d
    return (((a * 16 + b) * 16 + c) * 16 + d, rest)
  | _ => none

/-- The character that an escape stands for, after its backslash; two escaped halves of a surrogate
pair stand for one character. -/
def unescape? : List Char → Option (Char × List Char)
  | '"' :: rest => some ('"', rest)
  | '\\' :: rest => some ('\\', rest)
  | '/' :: rest => some ('/', rest)
  | 'b' :: rest => some (Char.ofNat 8, rest)
  | 'f' :: rest => some (Char.ofNat 12, rest)
  | 'n' :: rest => some ('\n', rest)
  | 'r' :: rest => some ('\r', rest)
  | 't' :: rest => some ('\t', rest)
  | 'u' :: rest => do
    let (high, rest) ← hexUnit? rest
    if 0xD800 ≤ high ∧ high < 0xDC00 then
      match rest with
      | '\\' :: 'u' :: rest =>
        let (low, rest) ← hexUnit? rest
        if 0xDC00 ≤ low ∧ low < 0xE000 then
          some (Char.ofNat (0x10000 + (high - 0xD800) * 0x400 + (low - 0xDC00)), rest)
        else none
      | _ => none
    else if 0xDC00 ≤ high ∧ high < 0xE000 then none
    else some (Char.ofNat high, rest)
  | _ => none

/-- The rest of a string after its opening quotation mark. The characters read so far are kept in
reverse. -/
def readString? : Nat → List Char → List Char → Option (String × List Char)
  | 0, _, _ => none
  | _ + 1, _, [] => none
  | fuel + 1, sofar, c :: cs =>
    if c = '"' then some (String.ofList sofar.reverse, cs)
    else if c = '\\' then
      match unescape? cs with
      | some (d, rest) => readString? fuel (d :: sofar) rest
      | none => none
    else if c.toNat < 32 then none
    else readString? fuel (c :: sofar) cs

section

variable (decoder : Decoder)

mutual

/-- One value in front of a text, and the text after it. -/
def readValue? : Nat → List Char → Option (Json × List Char)
  | 0, _ => none
  | fuel + 1, cs =>
    match skipSpace cs with
    | 'n' :: 'u' :: 'l' :: 'l' :: rest => some (.null, rest)
    | 't' :: 'r' :: 'u' :: 'e' :: rest => some (.bool true, rest)
    | 'f' :: 'a' :: 'l' :: 's' :: 'e' :: rest => some (.bool false, rest)
    | '"' :: rest => (readString? (rest.length + 1) [] rest).map fun (s, rest) => (.string s, rest)
    | '[' :: rest =>
      match skipSpace rest with
      | ']' :: rest => some (.array [], rest)
      | rest => (readItems? fuel [] rest).map fun (items, rest) => (.array items, rest)
    | '\x7b' :: rest =>
      match skipSpace rest with
      | '\x7d' :: rest => some (.object [], rest)
      | rest => (readMembers? fuel [] rest).map fun (members, rest) => (ofMembers members, rest)
    | rest =>
      (Number.ofLiteral? decoder (rest.takeWhile isNumberChar)).map fun n =>
        (.number n, rest.dropWhile isNumberChar)

/-- The items of an array up to its closing bracket. The items read so far are kept in reverse. -/
def readItems? : Nat → List Json → List Char → Option (List Json × List Char)
  | 0, _, _ => none
  | fuel + 1, sofar, cs => do
    let (item, rest) ← readValue? fuel cs
    match skipSpace rest with
    | ',' :: rest => readItems? fuel (item :: sofar) rest
    | ']' :: rest => some ((item :: sofar).reverse, rest)
    | _ => none

/-- The members of an object up to its closing brace. The members read so far are kept in
reverse. -/
def readMembers? :
    Nat → List (String × Json) → List Char → Option (List (String × Json) × List Char)
  | 0, _, _ => none
  | fuel + 1, sofar, cs =>
    match skipSpace cs with
    | '"' :: rest => do
      let (name, rest) ← readString? (rest.length + 1) [] rest
      match skipSpace rest with
      | ':' :: rest =>
        let (value, rest) ← readValue? fuel rest
        match skipSpace rest with
        | ',' :: rest => readMembers? fuel ((name, value) :: sofar) rest
        | '\x7d' :: rest => some (((name, value) :: sofar).reverse, rest)
        | _ => none
      | _ => none
    | _ => none

end

end

/-- The value that a whole text denotes. Every value and every item or member takes at least one
character, so twice the length bounds the nesting of calls. -/
def parse? (decoder : Decoder) (s : String) : Option Json :=
  let cs := s.toList
  match readValue? decoder (2 * cs.length + 2) cs with
  | some (j, rest) => if (skipSpace rest).isEmpty then some j else none
  | none => none

end ItemScoring.Json
