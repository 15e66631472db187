import ItemScoring.Duration
import ItemScoring.LoadError
import ItemScoring.Numeric.Numeral
import ItemScoring.Text.Blank
/-!
# Reading durations

A duration is written as a sign, the letter `P` and components, each a number and a designator:
first years, months, weeks and days, then, after the letter `T`, hours, minutes and seconds. Years
and months have fixed lengths. Components may come in any order and be repeated. A text without the
letter `P` is a number of seconds.
-/

set_option autoImplicit false

namespace ItemScoring.Duration

/-- The seconds of a component with the given designator, before or after the mark of time. -/
def unit? (afterTime : Bool) (designator : Char) : Option Float :=
  match afterTime, designator with
  | false, 'Y' => some 31536000
  | false, 'M' => some 2592000
  | false, 'W' => some 604800
  | false, 'D' => some 86400
  | true, 'H' => some 3600
  | true, 'M' => some 60
  | true, 'S' => some 1
  | _, _ => none

/-- What has been read of the components of a duration. -/
structure Reading where
  /-- The seconds of the complete components. -/
  total : Float
  /-- The characters of the number that is being read, in reverse. -/
  digits : List Char
  /-- Whether the mark of time has been read. -/
  afterTime : Bool
  /-- Whether a component is complete. -/
  component : Bool
  /-- Whether the last complete component came after the mark of time. -/
  timeComponent : Bool

/-- Nothing has been read. -/
def Reading.start : Reading := ⟨0, [], false, false, false⟩

/-- Read one more character. A comma is a decimal point. -/
def Reading.step (r : Reading) (c : Char) : Except CastFault Reading :=
  if c = 'T' ∧ r.afterTime = false ∧ r.digits = [] then .ok { r with afterTime := true }
  else if c.isDigit ∨ c = '.' ∨ c = ',' then
    .ok { r with digits := (if c = ',' then '.' else c) :: r.digits }
  else
    match Binary64.readChars? r.digits.reverse with
    | none => .error .durationNumber
    | some amount =>
      match unit? r.afterTime c with
      | none => .error .durationDesignator
      | some unit =>
        .ok
          { total := r.total + amount * unit
            digits := []
            afterTime := r.afterTime
            component := true
            timeComponent := r.afterTime }

/-- Read characters one after the other, up to the first fault. -/
def Reading.run (r : Reading) : List Char → Except CastFault Reading
  | [] => .ok r
  | c :: cs =>
    match r.step c with
    | .error fault => .error fault
    | .ok next => next.run cs

/-- The seconds that were read, when the text may end here. -/
def Reading.finish (r : Reading) : Except CastFault Float :=
  if r.digits ≠ [] ∨ r.component = false then .error .durationIncomplete
  else if r.afterTime = true ∧ r.timeComponent = false then .error .durationTime
  else .ok r.total

/-- The seconds of the components that follow the letter `P`. -/
def componentSeconds (cs : List Char) : Except CastFault Float :=
  if cs = [] then .error .durationEmpty
  else
    match Reading.start.run cs with
    | .error fault => .error fault
    | .ok r => r.finish

/-- The duration of a number of seconds that a text or a JSON number gave. -/
def inRange (x : Float) : Except CastFault Duration :=
  match ofSeconds? x with
  | some d => .ok d
  | none => .error .durationRange

/-- Read a duration without blanks around it. -/
def readChars (cs : List Char) : Except CastFault Duration :=
  let (negative, body) :=
    match cs with
    | '-' :: rest => (true, rest)
    | rest => (false, rest)
  match body with
  | 'P' :: rest =>
    match componentSeconds rest with
    | .error fault => .error fault
    | .ok total => inRange (Binary64.signed negative total)
  | _ =>
    match Binary64.readChars? cs with
    | none => .error .notDuration
    | some x => inRange x

/-- Read a duration, with any blanks around it. -/
def read (raw : String) : Except LoadError Duration :=
  match readChars (Text.trimChars raw.toList) with
  | .ok d => .ok d
  | .error fault => .error (.cast .duration raw fault)

end ItemScoring.Duration
