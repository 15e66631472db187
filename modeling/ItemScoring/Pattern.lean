import ItemScoring.Pattern.Matching
import ItemScoring.Pattern.Property
import ItemScoring.Pattern.Reader
/-!
# Patterns

The meaning of a pattern tree is a regular expression. Flags inside a group change the meaning of
what follows them in that group. Where classes are not those of Unicode, everything that could match
a part of a character is refused.

This is one language of patterns, the built-in one: it knows a selection of scripts and properties,
and it sets no limit to the size of a regular expression.
-/

set_option autoImplicit false

namespace ItemScoring.Pattern

/-- The flags in force. -/
structure Flags where
  /-- Whether case is ignored. -/
  ignoreCase : Bool
  /-- Whether lines count. -/
  multiLine : Bool
  /-- Whether the point stands for the end of a line, too. -/
  dotAll : Bool
  /-- Whether a carriage return ends a line, too. -/
  crlf : Bool
  /-- Whether classes are those of Unicode. -/
  unicode : Bool
  deriving DecidableEq, Repr

/-- The flags at the beginning of a pattern. -/
def Flags.initial : Flags := ⟨false, false, false, false, true⟩

/-- The flags after a change. -/
def Flags.apply (f : Flags) (change : FlagChange) : Flags where
  ignoreCase := change.ignoreCase.getD f.ignoreCase
  multiLine := change.multiLine.getD f.multiLine
  dotAll := change.dotAll.getD f.dotAll
  crlf := change.crlf.getD f.crlf
  unicode := change.unicode.getD f.unicode

/-- The characters that words are made of. -/
def Flags.word (f : Flags) : CharSet := if f.unicode then .word else .asciiWord

/-- A set, closed under case where case is ignored. -/
def Flags.fold (f : Flags) (s : CharSet) : CharSet :=
  if f.ignoreCase then (if f.unicode then .anyCase s else .anyAsciiCase s) else s

/-- The complement of a set, or the set itself. Only Unicode classes have complements. -/
def Flags.negateIf? (f : Flags) (negated : Bool) (s : CharSet) : Option CharSet :=
  if negated && !f.unicode then none else some (.negateIf negated s)

/-- The condition that an assertion stands for. -/
def Flags.look (f : Flags) : Assertion → Look
  | .lineStart => if f.multiLine then (if f.crlf then .startLineCrlf else .startLine) else .start
  | .lineEnd => if f.multiLine then (if f.crlf then .endLineCrlf else .endLine) else .finish
  | .textStart => .start
  | .textEnd => .finish
  | .wordBoundary => .boundary f.word
  | .notWordBoundary => .notBoundary f.word
  | .wordStart => .wordStart f.word
  | .wordEnd => .wordEnd f.word
  | .wordStartHalf => .notAfterWord f.word
  | .wordEndHalf => .notBeforeWord f.word

/-- The class that a letter stands for, or its complement. It is closed under case as it is. -/
def Flags.shorthand? (f : Flags) (s : Shorthand) (negated : Bool) : Option CharSet :=
  f.negateIf? negated
    (match s with
      | .digit => if f.unicode then .digit else .asciiDigit
      | .blank => if f.unicode then .blank else .asciiBlank
      | .word => f.word)

/-- The characters with a Unicode property, or their complement. -/
def Flags.property? (f : Flags) (name : String) (negated : Bool) : Option CharSet :=
  if f.unicode then (propertyOfName? name).map fun s => .negateIf negated (f.fold s) else none

/-- The characters that the point stands for. -/
def Flags.dot? (f : Flags) : Option CharSet :=
  if !f.unicode then none
  else if f.dotAll then some .all
  else if f.crlf then some (.complement (.union (.singleton '\n') (.singleton '\r')))
  else some (.complement (.singleton '\n'))

/-- The character that a literal stands for. -/
def Flags.literal? (f : Flags) (c : Char) (byte : Bool) : Option CharSet :=
  if byte && !f.unicode && 128 ≤ c.toNat then none else some (f.fold (.singleton c))

/-- The set that an operation makes of two sets. -/
def SetOperation.apply : SetOperation → CharSet → CharSet → CharSet
  | .intersection, s, t => .intersection s t
  | .difference, s, t => .difference s t
  | .symmetricDifference, s, t => .symmetricDifference s t

mutual

/-- The set that stands between brackets. -/
def Flags.set? (f : Flags) : SetTree → Option CharSet
  | .empty => some .none
  | .range low high => if !f.unicode && 128 ≤ high.toNat then none else some (.range low high)
  | .shorthand s negated => f.shorthand? s negated
  | .named s negated => f.negateIf? negated (f.fold s)
  | .property name negated => f.property? name negated
  | .union items => f.setUnion? items
  | .bracket negated body => do
    let s ← f.set? body
    f.negateIf? negated (f.fold s)
  | .combine operation left right => do
    let s ← f.set? left
    let t ← f.set? right
    return operation.apply (f.fold s) (f.fold t)

/-- The characters that are in one of several sets. -/
def Flags.setUnion? (f : Flags) : List SetTree → Option CharSet
  | [] => some .none
  | item :: rest => do
    let s ← f.set? item
    let t ← f.setUnion? rest
    return .union s t

end

mutual

/-- The regular expression that a tree stands for, and the flags after it. -/
def Flags.regex? (f : Flags) : Tree → Option (Regex × Flags)
  | .empty => some (.empty, f)
  | .flags change => some (.empty, f.apply change)
  | .literal c byte => (f.literal? c byte).map fun s => (.char s, f)
  | .dot => f.dot?.map fun s => (.char s, f)
  | .assertion a => some (.look (f.look a), f)
  | .shorthand s negated => (f.shorthand? s negated).map fun s => (.char s, f)
  | .property name negated => (f.property? name negated).map fun s => (.char s, f)
  | .set negated body => do
    let s ← f.set? body
    let s ← f.negateIf? negated (f.fold s)
    return (.char s, f)
  | .repetition least most t => do
    let (p, f) ← f.regex? t
    return (.repeated least most p, f)
  | .group change t => do
    let (p, _) ← (f.apply change).regex? t
    return (p, f)
  | .alternation ts => f.regexAlternation? ts
  | .sequence ts => f.regexSequence? ts

/-- The regular expression of a choice, and the flags after it. -/
def Flags.regexAlternation? (f : Flags) : List Tree → Option (Regex × Flags)
  | [] => some (.char .none, f)
  | [t] => f.regex? t
  | t :: rest => do
    let (p, f) ← f.regex? t
    let (q, f) ← f.regexAlternation? rest
    return (.either p q, f)

/-- The regular expression of patterns one after the other, and the flags after them. -/
def Flags.regexSequence? (f : Flags) : List Tree → Option (Regex × Flags)
  | [] => some (.empty, f)
  | t :: rest => do
    let (p, f) ← f.regex? t
    let (q, f) ← f.regexSequence? rest
    return (.append p q, f)

end

/-- The regular expression that a pattern stands for; none when the pattern is malformed. -/
def compile? (pattern : List Char) : Option Regex := do
  let t ← readTree pattern
  let (r, _) ← Flags.initial.regex? t
  return r

/-- The text of a pattern put between the conditions that nothing comes before and after. -/
def anchored (pattern : List Char) : List Char :=
  "^(?:".toList ++ pattern ++ ")$".toList

end ItemScoring.Pattern
