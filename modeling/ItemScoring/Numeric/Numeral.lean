import ItemScoring.Numeric.Shortest
/-!
# Numerals of binary floating-point numbers

A numeral style says how the shortest digits of a number are laid out: for which exponents the
number is written out in full, whether a whole number keeps a zero after the point, and how ties
between two shortest candidates go. Two styles are in use: `Style.plain` for the text of values
and messages, and `Style.json` for numbers inside JSON text.

In the other direction, `readChars?` takes a decimal numeral, or one of the words for infinity and
for what is no number, to the nearest binary64 number; `readPattern?` keeps the sign of the word for
what is no number.
-/

set_option autoImplicit false

namespace ItemScoring.Binary64

/-- How the digits of a finite number are laid out. -/
structure Style where
  /-- The decimal exponents of the first digit for which the number is written out in full. -/
  inFull : Int → Bool
  /-- Whether a number without a fraction ends in a point and a zero. -/
  pointZero : Bool
  /-- The choice between two equally near candidates for the shortest digits. -/
  tie : Tie

/-- Every number is written out in full, and a whole number has no point. -/
def Style.plain : Style where
  inFull _ := true
  pointZero := false
  tie := .up

/-- Numbers from `0.00001` up to sixteen digits are written out in full, with at least one digit
after the point; all others with an exponent that always has a sign. -/
def Style.json : Style where
  inFull e := -5 ≤ e && e ≤ 15
  pointZero := true
  tie := .even

/-- The digits of a decimal in full, with the point in its place. -/
def fullDigits (pointZero : Bool) (digits : List Char) (exponent : Int) : List Char :=
  let whole : Int := digits.length + exponent
  if 0 ≤ exponent then
    digits ++ List.replicate exponent.toNat '0' ++ (if pointZero then ['.', '0'] else [])
  else if 0 < whole then
    digits.take whole.toNat ++ '.' :: digits.drop whole.toNat
  else
    '0' :: '.' :: (List.replicate (-whole).toNat '0' ++ digits)

/-- One digit, the others after a point, and the exponent with its sign. -/
def scientificDigits (digits : List Char) (exponent : Int) : List Char :=
  let sign := if exponent < 0 then '-' else '+'
  (match digits with
    | [] => []
    | [d] => [d]
    | d :: ds => d :: '.' :: ds)
    ++ 'e' :: sign :: Nat.toDigits 10 exponent.natAbs

/-- The numeral of an exact value. -/
def Style.digits (style : Style) (d : Dyadic) : List Char :=
  if d.mantissa = 0 then (if style.pointZero then ['0', '.', '0'] else ['0'])
  else
    let decimal := shortest style.tie d
    let digits := Nat.toDigits 10 decimal.significand
    let first : Int := digits.length + decimal.exponent - 1
    if style.inFull first then fullDigits style.pointZero digits decimal.exponent
    else scientificDigits digits first

/-- The numeral of a finite number; none for infinities and for what is no number. -/
def Style.numeral? (style : Style) (x : Float) : Option String :=
  (decode? x).map fun d =>
    String.ofList (if d.negative then '-' :: style.digits d else style.digits d)

/-- The numeral of any number in full, with the given words for the infinities. -/
def textWith (infinity negativeInfinity : String) (x : Float) : String :=
  match Style.plain.numeral? x with
  | some s => s
  | none => if x.isNaN then "NaN" else if 0 < x then infinity else negativeInfinity

/-- The numeral in full, as error messages show it. -/
def text (x : Float) : String := textWith "inf" "-inf" x

/-- The nearest binary64 number to `significand · 10 ^ exponent`. Magnitudes far outside the range
are settled from the number of digits alone. -/
def ofDecimal (significand : Nat) (exponent : Int) : Float :=
  let digits : Int := digitCount significand
  if significand = 0 then 0
  else if 400 < digits + exponent then 1 / 0
  else if digits + exponent < -400 then 0
  else Float.ofScientific significand (exponent < 0) exponent.natAbs

/-- Give a number a sign. -/
def signed (negative : Bool) (x : Float) : Float := if negative then -x else x

/-- The value of a run of digits. -/
def digitsNumber (cs : List Char) : Nat :=
  cs.foldl (fun n c => 10 * n + (c.toNat - '0'.toNat)) 0

/-- The exponent part of a numeral: nothing, or a mark, an optional sign and at least one digit. -/
def exponentPart? : List Char → Option Int
  | [] => some 0
  | mark :: cs =>
    if mark = 'e' ∨ mark = 'E' then
      let (negative, ds) :=
        match cs with
        | '-' :: ds => (true, ds)
        | '+' :: ds => (false, ds)
        | ds => (false, ds)
      if ds.isEmpty || !ds.all Char.isDigit then none
      else
        let n : Int := digitsNumber ds
        some (if negative then -n else n)
    else none

/-- An unsigned decimal numeral: digits with at most one point among them, at least one digit in
all, and an optional exponent. -/
def readUnsigned? (cs : List Char) : Option Float :=
  let whole := cs.takeWhile Char.isDigit
  let rest := cs.dropWhile Char.isDigit
  let (fraction, tail) :=
    match rest with
    | '.' :: after => (after.takeWhile Char.isDigit, after.dropWhile Char.isDigit)
    | _ => ([], rest)
  if whole.isEmpty && fraction.isEmpty then none
  else
    (exponentPart? tail).map fun e =>
      ofDecimal (digitsNumber (whole ++ fraction)) (e - fraction.length)

/-- A word for infinity or for what is no number; the case of letters is ignored. -/
def readWord? (cs : List Char) : Option Float :=
  let word := cs.map Char.toLower
  if word = "inf".toList ∨ word = "infinity".toList then some (1 / 0)
  else if word = "nan".toList then some (0 / 0)
  else none

/-- Read a whole text as a number: an optional sign, then a decimal numeral or a word. -/
def readChars? (cs : List Char) : Option Float :=
  let (negative, body) :=
    match cs with
    | '-' :: rest => (true, rest)
    | '+' :: rest => (false, rest)
    | rest => (false, rest)
  (signed negative) <$> (readUnsigned? body <|> readWord? body)

/-- What is no number, with the sign bit set. -/
def negativeNotNumber : Binary64 := ⟨0xfff8000000000000⟩

/-- Read a whole text as a bit pattern. A minus before the word for what is no number changes
nothing but the pattern. -/
def readPattern? (cs : List Char) : Option Binary64 :=
  (readChars? cs).map fun x =>
    if x.isNaN && cs.head? == some '-' then negativeNotNumber else ofFloat x

end ItemScoring.Binary64
