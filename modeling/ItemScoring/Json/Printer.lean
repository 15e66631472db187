import ItemScoring.Json.Basic
/-!
# JSON text

JSON is written without blanks. In strings, the quotation mark, the backslash and control characters
are escaped and nothing else is.
-/

set_option autoImplicit false

namespace ItemScoring.Json

/-- The escape of a character inside a string, or the character itself. -/
def escapeChar (c : Char) : List Char :=
  if c = '"' then ['\\', '"']
  else if c = '\\' then ['\\', '\\']
  else if c = '\n' then ['\\', 'n']
  else if c = '\r' then ['\\', 'r']
  else if c = '\t' then ['\\', 't']
  else if c.toNat = 8 then ['\\', 'b']
  else if c.toNat = 12 then ['\\', 'f']
  else if c.toNat < 32 then
    ['\\', 'u', '0', '0', Nat.digitChar (c.toNat / 16), Nat.digitChar (c.toNat % 16)]
  else [c]

/-- A string in quotation marks. -/
def quote (s : String) : List Char :=
  '"' :: (s.toList.flatMap escapeChar ++ ['"'])

/-- The text of a number. A number that JSON cannot express is written as `null`. -/
def Number.chars : Number → List Char
  | .integer n => (Integer.text n).toList
  | .float x => ((Binary64.Style.json.numeral? x).getD "null").toList

mutual

/-- The text of a value, in front of the text that follows it. -/
def write (tail : List Char) : Json → List Char
  | .null => "null".toList ++ tail
  | .bool b => (if b then "true" else "false").toList ++ tail
  | .number n => n.chars ++ tail
  | .string s => quote s ++ tail
  | .array items => '[' :: writeItems tail items
  | .object members => '\x7b' :: writeMembers tail members

/-- The text of the items of an array and of its closing bracket. -/
def writeItems (tail : List Char) : List Json → List Char
  | [] => ']' :: tail
  | [item] => write (']' :: tail) item
  | item :: next :: rest => write (',' :: writeItems tail (next :: rest)) item

/-- The text of the members of an object and of its closing brace. -/
def writeMembers (tail : List Char) : List (String × Json) → List Char
  | [] => '\x7d' :: tail
  | [(name, value)] => quote name ++ ':' :: write ('\x7d' :: tail) value
  | (name, value) :: next :: rest =>
    quote name ++ ':' :: write (',' :: writeMembers tail (next :: rest)) value

end

/-- The compact text of a value. -/
def compact (j : Json) : String := String.ofList (write [] j)

/-- The text of a value inside a larger text: a string stands for itself. -/
def plainText : Json → String
  | .string s => s
  | j => compact j

end ItemScoring.Json
