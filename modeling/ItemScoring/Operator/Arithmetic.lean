import ItemScoring.Operator.Basic
/-!
# Arithmetic

Integers are combined in checked 64-bit arithmetic, and an integer result that is out of range is an
error. As soon as one operand is declared as something else, all are combined as floating-point
numbers, and a result that is not finite is NULL. Operands that are no finite numbers are left out.
-/

set_option autoImplicit false

namespace ItemScoring.Arithmetic

/-- The finite numbers of the operands; nothing when an operand is NULL or none is left. -/
def numbers? (i : Invocation) : Option (List Quantity) :=
  if i.anyNull then none
  else
    match Quantity.ofOperands i.operands with
    | [] => none
    | qs => some qs

/-- The base type of the result. -/
def resultType (i : Invocation) : BaseType :=
  if Operand.allInteger i.operands then .integer else .float

/-- The integers that the operands consist of, when the result is an integer. -/
def integerOperands? (i : Invocation) (qs : List Quantity) : Option (List Int64) :=
  if resultType i = .integer then Quantity.integers? qs else none

/-- Combine integers from left to right, as long as the results are in range. -/
def foldIntegers (step : Int64 → Int64 → Option Int64) (sofar : Int64) :
    List Int64 → Option Int64
  | [] => some sofar
  | n :: rest =>
    match step sofar n with
    | some next => foldIntegers step next rest
    | none => none

/-- Combine the operands from left to right. -/
def combine (onIntegers : Int64 → Int64 → Option Int64) (onFloats : Float → Float → Float)
    (i : Invocation) : Result Operand :=
  match numbers? i with
  | none => .ok (.null (resultType i))
  | some qs =>
    match integerOperands? i qs with
    | some (n :: ns) =>
      match foldIntegers onIntegers n ns with
      | some total => .ok (some (.integer total))
      | none => i.overflow
    | _ =>
      match qs.map Quantity.toFloat with
      | [] => .ok (.finite 0)
      | x :: xs => .ok (.finite (xs.foldl onFloats x))

/-- The sum of the operands. -/
def sum : Invocation → Result Operand := combine Integer.add? fun x y => x + y

/-- The product of the operands. -/
def product : Invocation → Result Operand := combine Integer.mul? fun x y => x * y

/-- The difference of two operands. -/
def subtract (i : Invocation) : Result Operand :=
  match numbers? i with
  | some [a, b] =>
    match integerOperands? i [a, b] with
    | some [m, n] =>
      match Integer.sub? m n with
      | some difference => .ok (some (.integer difference))
      | none => i.overflow
    | _ => .ok (.finite (a.toFloat - b.toFloat))
  | _ => .ok (.null (resultType i))

/-- Combine two operands as floating-point numbers; NULL when there are not two numbers. -/
def onPair (result : Float → Float → Operand) (i : Invocation) : Result Operand :=
  match numbers? i with
  | some [a, b] => .ok (result a.toFloat b.toFloat)
  | _ => .ok (.null .float)

/-- The quotient of two operands; division by zero gives NULL. -/
def divide : Invocation → Result Operand :=
  onPair fun x y => if y == 0 then .null .float else .finite (x / y)

/-- The first operand raised to the power of the second. -/
def power : Invocation → Result Operand := onPair fun x y => .finite (x.pow y)

/-- Combine two integers of which the second is not zero; NULL when there are none such. -/
def onIntegerPair (result : Int64 → Int64 → Option Int64) (i : Invocation) : Result Operand :=
  match (i.scalar? 0).bind Scalar.int64?, (i.scalar? 1).bind Scalar.int64? with
  | some a, some b =>
    if b = 0 then .ok (.null .integer)
    else
      match result a b with
      | some n => .ok (some (.integer n))
      | none => i.overflow
  | _, _ => .ok (.null .integer)

/-- The quotient rounded down, when it is in range. The quotient rounded toward zero is one too many
where it leaves something over and the signs differ. -/
def quotient? (a b : Int64) : Option Int64 := do
  let q ← Integer.div? a b
  let r ← Integer.rem? a b
  if r ≠ 0 ∧ ¬(a.toInt < 0 ↔ b.toInt < 0) then Integer.sub? q 1 else return q

/-- What the quotient rounded down leaves over; every step of its computation has to be in range. -/
def remainder? (a b : Int64) : Option Int64 := do
  let q ← quotient? a b
  let p ← Integer.mul? q b
  Integer.sub? a p

/-- The quotient of two integers, rounded down. -/
def integerDivide : Invocation → Result Operand := onIntegerPair quotient?

/-- What the quotient of two integers leaves over. -/
def integerModulus : Invocation → Result Operand := onIntegerPair remainder?

/-- An integer as a floating-point number. -/
def integerToFloat (i : Invocation) : Result Operand :=
  match i.scalar? 0 with
  | some (.integer n) => .ok (some (.float (Binary64.ofInteger n.toInt)))
  | _ => .ok (.null .float)

/-- Combine the magnitudes of integers, of which there has to be at least one and nothing else. -/
def onMagnitudes (result : List Nat → Option Nat) (i : Invocation) : Result Operand :=
  match (numbers? i).bind Quantity.integers? with
  | none => .ok (.null .integer)
  | some ns =>
    match (result (ns.map fun n => n.toInt.natAbs)).bind fun m => Integer.ofInt? m with
    | some n => .ok (some (.integer n))
    | none => i.overflow

/-- The greatest common divisor of two magnitudes: the remainder of their division takes the place
of the greater one until nothing remains. -/
def commonDivisor (a b : Nat) : Nat :=
  if b = 0 then a else commonDivisor b (a % b)
termination_by b
decreasing_by exact Nat.mod_lt a (by omega)

/-- The least common multiple of two magnitudes, when an unsigned word holds it. It is divided
before it is multiplied. -/
def commonMultiple? (a b : Nat) : Option Nat :=
  Integer.mulMagnitudes? (a / commonDivisor a b) b

/-- The least common multiple of magnitudes, taken from left to right as long as unsigned words
hold it; zero when one of them is. -/
def commonMultiples? (ns : List Nat) : Option Nat :=
  if ns.contains 0 then some 0 else ns.foldlM commonMultiple? 1

/-- The greatest common divisor; that of zeros is zero. -/
def gcd : Invocation → Result Operand := onMagnitudes fun ns => some (ns.foldl commonDivisor 0)

/-- The least common multiple; it is zero when an operand is. -/
def lcm : Invocation → Result Operand := onMagnitudes commonMultiples?

/-- The integer that is preferred to all others. -/
def preferred (better : Int64 → Int64 → Bool) (n : Int64) (ns : List Int64) : Int64 :=
  ns.foldl (fun best n => if better n best then n else best) n

/-- The extreme of the operands: the preferred integer, or the result of combining all numbers with
a bound that none goes beyond. -/
def extreme (better : Int64 → Int64 → Bool) (pick : Float → Float → Float) (bound : Float)
    (i : Invocation) : Result Operand :=
  match numbers? i with
  | none => .ok (.null (resultType i))
  | some qs =>
    match integerOperands? i qs with
    | some (n :: ns) => .ok (some (.integer (preferred better n ns)))
    | _ => .ok (.finite ((qs.map Quantity.toFloat).foldl pick bound))

/-- The least operand. -/
def min : Invocation → Result Operand :=
  extreme (fun m n => m.toInt < n.toInt) Binary64.least (1 / 0)

/-- The greatest operand. -/
def max : Invocation → Result Operand :=
  extreme (fun m n => m.toInt > n.toInt) Binary64.greatest (-1 / 0)

end ItemScoring.Arithmetic
