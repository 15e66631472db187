import ItemScoring.Error
import ItemScoring.Json.Basic
/-!
# Configurations

A configuration limits how deeply expressions are nested and says whether assignments keep to the
declared shapes. In JSON it is an object, from which members may be left out, or an array of the two
parts in order, from which parts may be missing at the end.
-/

set_option autoImplicit false

namespace ItemScoring

/-- How an engine is set up. -/
structure Config where
  /-- How deeply expressions may be nested; there may be no limit. -/
  maxDepth : Option Nat
  /-- Whether an outcome takes only values of its own shape. Integers are also taken where numbers
  are. -/
  strictOutcomeTypes : Bool
  deriving DecidableEq, Repr

namespace Config

/-- The configuration that counts where nothing is said: no limit, and strict assignments. -/
def standard : Config := ⟨none, true⟩

/-- Refuse an expression that is nested too deeply. -/
def checkDepth (config : Config) (depth : Nat) : Result Unit :=
  match config.maxDepth with
  | none => .ok ()
  | some limit => if limit < depth then .error (.depthExceeded limit) else .ok ()

/-- What is reported of JSON that is no configuration. -/
def malformed {α : Type} : Except LoadError α := .error (.malformed .configuration)

/-- A limit: a number that is not negative, or `null` for none. -/
def limitOfJson : Json → Except LoadError (Option Nat)
  | .null => .ok none
  | .number (.integer n) => if n < 0 then malformed else .ok (some n.toNat)
  | _ => malformed

/-- A switch. -/
def switchOfJson : Json → Except LoadError Bool
  | .bool b => .ok b
  | _ => malformed

/-- Take over one member of a configuration. -/
def withMember (config : Config) (name : String) (raw : Json) : Except LoadError Config :=
  if name = "maxDepth" then (limitOfJson raw).map fun limit => { config with maxDepth := limit }
  else if name = "strictOutcomeTypes" then
    (switchOfJson raw).map fun strict => { config with strictOutcomeTypes := strict }
  else malformed

/-- Take over the members of a configuration. -/
def withMembers (config : Config) : List (String × Json) → Except LoadError Config
  | [] => .ok config
  | (name, raw) :: rest => do
    let config ← config.withMember name raw
    config.withMembers rest

/-- The configuration that JSON stands for. -/
def ofJson : Json → Except LoadError Config
  | .object members => standard.withMembers members
  | .array [] => .ok standard
  | .array [limit] => (limitOfJson limit).map fun maxDepth => { standard with maxDepth }
  | .array [limit, strict] => do
    let maxDepth ← limitOfJson limit
    let strictOutcomeTypes ← switchOfJson strict
    return { maxDepth, strictOutcomeTypes }
  | _ => malformed

end Config

end ItemScoring
