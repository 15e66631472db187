import ItemScoring.Text.Blank
import ItemScoring.Text.Folding
import ItemScoring.Text.Letter
/-!
# Sets of characters

A set of characters is described by how it is put together, and membership is decided on that
description.
-/

set_option autoImplicit false

namespace ItemScoring.Pattern

/-- A description of a set of characters. -/
inductive CharSet where
  /-- No character. -/
  | none
  /-- The characters between two others, which belong to it. -/
  | range (low high : Char)
  /-- The characters whose code points are in ranges. -/
  | ranges (rs : List (Nat × Nat))
  /-- The characters of a general category. -/
  | category (g : Text.Category)
  /-- The characters that are used as letters. -/
  | alphabetic
  /-- The decimal digits of all scripts. -/
  | digit
  /-- The blanks. -/
  | blank
  /-- The characters that words are made of. -/
  | word
  /-- The characters that are not in a set. -/
  | complement (s : CharSet)
  /-- The characters that are in one of two sets. -/
  | union (s t : CharSet)
  /-- The characters that are in both of two sets. -/
  | intersection (s t : CharSet)
  /-- The characters that are equal, up to case, to one in a set. -/
  | anyCase (s : CharSet)
  /-- The characters that are equal, up to the case of ASCII letters, to one in a set. -/
  | anyAsciiCase (s : CharSet)

namespace CharSet

/-- Whether a character is in a set. -/
def mem (c : Char) : CharSet → Bool
  | .none => false
  | .range low high => low ≤ c && c ≤ high
  | .ranges rs => Text.inRanges rs c.toNat
  | .category g => g.holds c
  | .alphabetic => Text.isAlphabetic c
  | .digit => Text.isDecimalDigit c
  | .blank => Text.isBlank c
  | .word => Text.isWordChar c
  | .complement s => !mem c s
  | .union s t => mem c s || mem c t
  | .intersection s t => mem c s && mem c t
  | .anyCase s => (Text.caseVariants c).any fun d => mem d s
  | .anyAsciiCase s => mem c s || mem c.toLower s || mem c.toUpper s

/-- The set of one character. -/
def singleton (c : Char) : CharSet := .range c c

/-- The characters of the first set that are not in the second. -/
def difference (s t : CharSet) : CharSet := .intersection s (.complement t)

/-- The characters that are in exactly one of two sets. -/
def symmetricDifference (s t : CharSet) : CharSet := .union (difference s t) (difference t s)

/-- Every character. -/
def all : CharSet := .complement .none

/-- The complement of a set, or the set itself. -/
def negateIf (negated : Bool) (s : CharSet) : CharSet := if negated then .complement s else s

/-- The characters that are in one of several sets. -/
def unions : List CharSet → CharSet
  | [] => .none
  | [s] => s
  | s :: rest => .union s (unions rest)

/-- The ASCII digits. -/
def asciiDigit : CharSet := .range '0' '9'

/-- The ASCII blanks. -/
def asciiBlank : CharSet := .union (.range '\t' '\r') (singleton ' ')

/-- The ASCII characters that words are made of. -/
def asciiWord : CharSet :=
  unions [.range '0' '9', .range 'A' 'Z', .range 'a' 'z', singleton '_']

end CharSet

end ItemScoring.Pattern
