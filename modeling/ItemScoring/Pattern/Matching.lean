import ItemScoring.Pattern.CharSet
/-!
# Matching

A regular expression relates places in a text: it leads from one place to another when the text
between them matches. Places are counted in characters from the start. `ends` computes all places
that an expression leads to from a set of places, so that no choice is ever taken back. Repetition
adds places until there is nothing new, which happens after at most one round per place.
-/

set_option autoImplicit false

namespace ItemScoring.Pattern

/-- A condition on the characters around a place. -/
inductive Look where
  /-- No character before. -/
  | start
  /-- No character after. -/
  | finish
  /-- A line begins: no character before, or a line feed. -/
  | startLine
  /-- A line ends: no character after, or a line feed. -/
  | endLine
  /-- A line begins, where a carriage return ends a line, too. -/
  | startLineCrlf
  /-- A line ends, where a carriage return ends a line, too. -/
  | endLineCrlf
  /-- A character of a word is on exactly one side. -/
  | boundary (letters : CharSet)
  /-- A character of a word is on both sides or on none. -/
  | notBoundary (letters : CharSet)
  /-- A character of a word is after but not before. -/
  | wordStart (letters : CharSet)
  /-- A character of a word is before but not after. -/
  | wordEnd (letters : CharSet)
  /-- No character of a word is before. -/
  | notAfterWord (letters : CharSet)
  /-- No character of a word is after. -/
  | notBeforeWord (letters : CharSet)

/-- Whether there is a character and it is in a set. -/
def isIn (s : CharSet) (c : Option Char) : Bool := c.any fun c => s.mem c

/-- Whether a condition holds between two characters. -/
def Look.holds (before after : Option Char) : Look → Bool
  | .start => before.isNone
  | .finish => after.isNone
  | .startLine => before.isNone || before == some '\n'
  | .endLine => after.isNone || after == some '\n'
  | .startLineCrlf =>
    before.isNone || before == some '\n' || (before == some '\r' && after != some '\n')
  | .endLineCrlf =>
    after.isNone || after == some '\r' || (after == some '\n' && before != some '\r')
  | .boundary letters => isIn letters before != isIn letters after
  | .notBoundary letters => isIn letters before == isIn letters after
  | .wordStart letters => !isIn letters before && isIn letters after
  | .wordEnd letters => isIn letters before && !isIn letters after
  | .notAfterWord letters => !isIn letters before
  | .notBeforeWord letters => !isIn letters after

/-- A regular expression. -/
inductive Regex where
  /-- Leads from every place to itself. -/
  | empty
  /-- Leads over one character of a set. -/
  | char (s : CharSet)
  /-- Leads from a place to itself when a condition holds there. -/
  | look (l : Look)
  /-- Leads where the second leads from where the first leads. -/
  | append (p q : Regex)
  /-- Leads where one of two leads. -/
  | either (p q : Regex)
  /-- Leads where a number of repetitions leads. -/
  | repeated (least : Nat) (most : Option Nat) (p : Regex)

/-- A set of places in a text: for each place, from the start on, whether it belongs to the set. A
text has one place more than it has characters. -/
abbrev Places := List Bool

/-- The places that are in one of two sets. -/
def Places.union (a b : Places) : Places := List.zipWith (· || ·) a b

/-- Repeat a step a number of times, or until it no longer changes anything. -/
def stepTimes (step : Places → Places) : Nat → Places → Places
  | 0, places => places
  | n + 1, places =>
    let next := step places
    if next = places then places else stepTimes step n next

/-- Collect what up to a number of steps leads to, or until there is nothing new. -/
def collect (step : Places → Places) : Nat → Places → Places
  | 0, places => places
  | n + 1, places =>
    let next := places.union (step places)
    if next = places then places else collect step n next

/-- The characters before and after each place of a text. -/
def surroundings (text : List Char) : List (Option Char × Option Char) :=
  (none :: text.map some).zip (text.map some ++ [none])

/-- The places that an expression leads to from given places of a text. -/
def Regex.ends (text : List Char) : Regex → Places → Places
  | .empty, places => places
  | .char s, places => false :: List.zipWith (fun here c => here && s.mem c) places text
  | .look l, places =>
    List.zipWith (fun here around => here && l.holds around.1 around.2) places (surroundings text)
  | .append p q, places => q.ends text (p.ends text places)
  | .either p q, places => (p.ends text places).union (q.ends text places)
  | .repeated least most p, places =>
    collect (p.ends text) (most.elim (text.length + 1) (· - least))
      (stepTimes (p.ends text) least places)

/-- Whether an expression leads anywhere from some place of a text. -/
def Regex.matchesIn (r : Regex) (text : List Char) : Bool :=
  (r.ends text (List.replicate (text.length + 1) true)).any id

end ItemScoring.Pattern
