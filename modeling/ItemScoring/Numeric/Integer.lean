/-!
# 64-bit integers

Integers of the domain are signed 64-bit words. Arithmetic is checked: it is carried out on the
unbounded integers and refused when the result leaves the range, so a result never wraps around.
Two readers turn text into such an integer. `Integer.read` takes the whole text and names the
fault when it refuses; `Integer.leading?` takes an optional sign and the digits that follow it,
and ignores whatever comes after them.
-/

set_option autoImplicit false

namespace ItemScoring.Integer

/-- The magnitude of the least integer of the range, `2 ^ 63`. -/
def bound : Nat := 9223372036854775808

/-- The least integer of the range. -/
def least : Int := -bound

/-- The greatest integer of the range. -/
def greatest : Int := bound - 1

/-- The word that holds `n`, when `n` is in range. -/
def ofInt? (n : Int) : Option Int64 :=
  if least ≤ n ∧ n ≤ greatest then some (Int64.ofInt n) else none

/-- The sum, when it is in range. -/
def add? (a b : Int64) : Option Int64 := ofInt? (a.toInt + b.toInt)

/-- The difference, when it is in range. -/
def sub? (a b : Int64) : Option Int64 := ofInt? (a.toInt - b.toInt)

/-- The product, when it is in range. -/
def mul? (a b : Int64) : Option Int64 := ofInt? (a.toInt * b.toInt)

/-- The quotient rounded toward zero, when there is one and it is in range. -/
def div? (a b : Int64) : Option Int64 :=
  if b = 0 then none else ofInt? (a.toInt.tdiv b.toInt)

/-- What the quotient rounded toward zero leaves over. Where there is no such quotient there is no
remainder either. -/
def rem? (a b : Int64) : Option Int64 :=
  if (div? a b).isSome then ofInt? (a.toInt.tmod b.toInt) else none

/-- The greatest magnitude that an unsigned word of 64 bits holds, `2 ^ 64 - 1`. -/
def greatestMagnitude : Nat := 18446744073709551615

/-- The product of two magnitudes, when an unsigned word holds it. -/
def mulMagnitudes? (a b : Nat) : Option Nat :=
  if a * b ≤ greatestMagnitude then some (a * b) else none

/-- The decimal digits, with a minus sign in front of a negative number. -/
def text (n : Int) : String :=
  match n with
  | .ofNat m => String.ofList (Nat.toDigits 10 m)
  | .negSucc m => String.ofList ('-' :: Nat.toDigits 10 (m + 1))

/-- Why a text is not a 64-bit integer. -/
inductive Fault where
  /-- There is no text at all. -/
  | empty
  /-- A character stands where a digit has to be, or no digit follows the sign. -/
  | invalidDigit
  /-- The number is above the range. -/
  | tooLarge
  /-- The number is below the range. -/
  | tooSmall
  deriving DecidableEq, Repr

/-- The wording of a fault. -/
def Fault.message : Fault → String
  | .empty => "cannot parse integer from empty string"
  | .invalidDigit => "invalid digit found in string"
  | .tooLarge => "number too large to fit in target type"
  | .tooSmall => "number too small to fit in target type"

/-- The value of an ASCII digit. -/
def digitValue (c : Char) : Nat := c.toNat - '0'.toNat

/-- The number that a run of digits denotes, continued from the value of the digits before it. -/
def digitsValue (sofar : Nat) (cs : List Char) : Nat :=
  cs.foldl (fun n c => 10 * n + digitValue c) sofar

/-- Read digits up to the end of the text, stopping at the first fault: a character that is no
digit, or the digit that carries the magnitude above `limit`. -/
def readDigits (limit : Nat) (beyond : Fault) (sofar : Nat) : List Char → Except Fault Nat
  | [] => .ok sofar
  | c :: cs =>
    if c.isDigit then
      let value := 10 * sofar + digitValue c
      if value ≤ limit then readDigits limit beyond value cs else .error beyond
    else .error .invalidDigit

/-- Read a whole text as an integer: an optional sign, then digits and nothing else. -/
def readChars : List Char → Except Fault Int64
  | [] => .error .empty
  | ['+'] => .error .invalidDigit
  | ['-'] => .error .invalidDigit
  | '+' :: cs => (readDigits (bound - 1) .tooLarge 0 cs).map fun n => Int64.ofInt n
  | '-' :: cs => (readDigits bound .tooSmall 0 cs).map fun n => Int64.ofInt (-n)
  | cs => (readDigits (bound - 1) .tooLarge 0 cs).map fun n => Int64.ofInt n

/-- Read a whole text as an integer: an optional sign, then digits and nothing else. -/
def read (s : String) : Except Fault Int64 := readChars s.toList

/-- The integer that the leading digits denote; none when there is no digit or the number is out
of range. -/
def leadingDigits? (negative : Bool) (cs : List Char) : Option Int64 :=
  match cs.takeWhile Char.isDigit with
  | [] => none
  | ds =>
    let n := digitsValue 0 ds
    ofInt? (if negative then -(n : Int) else n)

/-- Read an optional sign and the run of digits that follows it, and ignore the rest. -/
def leadingChars? : List Char → Option Int64
  | '-' :: cs => leadingDigits? true cs
  | '+' :: cs => leadingDigits? false cs
  | cs => leadingDigits? false cs

end ItemScoring.Integer
