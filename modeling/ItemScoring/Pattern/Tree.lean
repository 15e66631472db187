import ItemScoring.Pattern.CharSet
/-!
# Pattern trees

A pattern is first read into a tree that mirrors how it is written. Trees that are nested too deeply
are refused; the depth counts repetitions, groups, choices, sequences and bracketed sets.
-/

set_option autoImplicit false

namespace ItemScoring.Pattern

/-- A condition on a place in a text. -/
inductive Assertion where
  /-- The beginning of the text, or of a line where lines count. -/
  | lineStart
  /-- The end of the text, or of a line where lines count. -/
  | lineEnd
  /-- The beginning of the text. -/
  | textStart
  /-- The end of the text. -/
  | textEnd
  /-- A boundary of a word. -/
  | wordBoundary
  /-- No boundary of a word. -/
  | notWordBoundary
  /-- The beginning of a word. -/
  | wordStart
  /-- The end of a word. -/
  | wordEnd
  /-- No word before. -/
  | wordStartHalf
  /-- No word after. -/
  | wordEndHalf
  deriving DecidableEq, Repr

/-- A class of characters with a letter of its own. -/
inductive Shorthand where
  /-- Digits. -/
  | digit
  /-- Blanks. -/
  | blank
  /-- Characters of words. -/
  | word
  deriving DecidableEq, Repr

/-- An operation on two sets inside brackets. -/
inductive SetOperation where
  /-- What is in both. -/
  | intersection
  /-- What is in the first and not in the second. -/
  | difference
  /-- What is in exactly one. -/
  | symmetricDifference
  deriving DecidableEq, Repr

/-- What stands between the brackets of a set. -/
inductive SetTree where
  /-- Nothing. -/
  | empty
  /-- The characters between two others. -/
  | range (low high : Char)
  /-- A class with a letter of its own, or its complement. -/
  | shorthand (s : Shorthand) (negated : Bool)
  /-- A class with a name between colons, or its complement. -/
  | named (s : CharSet) (negated : Bool)
  /-- A Unicode property, or its complement. -/
  | property (name : String) (negated : Bool)
  /-- Several items side by side. -/
  | union (items : List SetTree)
  /-- A set in brackets of its own, or its complement. -/
  | bracket (negated : Bool) (body : SetTree)
  /-- An operation on two sets. -/
  | combine (operation : SetOperation) (left right : SetTree)

/-- The flags that a pattern switches on or off. -/
structure FlagChange where
  /-- Whether case is ignored. -/
  ignoreCase : Option Bool
  /-- Whether lines count. -/
  multiLine : Option Bool
  /-- Whether the point stands for the end of a line, too. -/
  dotAll : Option Bool
  /-- Whether a carriage return ends a line, too. -/
  crlf : Option Bool
  /-- Whether classes are those of Unicode. -/
  unicode : Option Bool
  /-- Whether blanks and comments in the pattern are ignored. -/
  verbose : Option Bool
  deriving DecidableEq, Repr

/-- No flag is switched. -/
def FlagChange.none : FlagChange := ⟨.none, .none, .none, .none, .none, .none⟩

/-- A pattern as it is written. -/
inductive Tree where
  /-- Nothing. -/
  | empty
  /-- Flags for what follows in the same group. -/
  | flags (change : FlagChange)
  /-- A character; `byte` says that it is written as two hexadecimal digits. -/
  | literal (c : Char) (byte : Bool)
  /-- Any character. -/
  | dot
  /-- A condition on the place. -/
  | assertion (a : Assertion)
  /-- A class with a letter of its own, or its complement. -/
  | shorthand (s : Shorthand) (negated : Bool)
  /-- A Unicode property, or its complement. -/
  | property (name : String) (negated : Bool)
  /-- A set in brackets, or its complement. -/
  | set (negated : Bool) (body : SetTree)
  /-- A pattern repeated at least and at most so many times. -/
  | repetition (least : Nat) (most : Option Nat) (t : Tree)
  /-- A pattern in parentheses, with flags for it alone. -/
  | group (change : FlagChange) (t : Tree)
  /-- A choice. -/
  | alternation (ts : List Tree)
  /-- Patterns one after the other. -/
  | sequence (ts : List Tree)

mutual

/-- How deeply sets are nested. -/
def SetTree.depth : SetTree → Nat
  | .empty => 0
  | .range _ _ => 0
  | .shorthand _ _ => 0
  | .named _ _ => 0
  | .property _ _ => 0
  | .union items => SetTree.depths items + 1
  | .bracket _ body => body.depth + 1
  | .combine _ left right => max left.depth right.depth + 1

/-- The greatest depth among sets. -/
def SetTree.depths : List SetTree → Nat
  | [] => 0
  | s :: rest => max s.depth (SetTree.depths rest)

end

mutual

/-- How deeply a pattern is nested. -/
def Tree.depth : Tree → Nat
  | .empty => 0
  | .flags _ => 0
  | .literal _ _ => 0
  | .dot => 0
  | .assertion _ => 0
  | .shorthand _ _ => 0
  | .property _ _ => 0
  | .set _ body => body.depth + 1
  | .repetition _ _ t => t.depth + 1
  | .group _ t => t.depth + 1
  | .alternation ts => Tree.depths ts + 1
  | .sequence ts => Tree.depths ts + 1

/-- The greatest depth among patterns. -/
def Tree.depths : List Tree → Nat
  | [] => 0
  | t :: rest => max t.depth (Tree.depths rest)

end

/-- Patterns one after the other; a single one stands for itself. -/
def Tree.ofSequence : List Tree → Tree
  | [] => .empty
  | [t] => t
  | ts => .sequence ts

/-- A choice; a single pattern stands for itself. -/
def Tree.ofAlternation : List Tree → Tree
  | [] => .empty
  | [t] => t
  | ts => .alternation ts

/-- Items side by side; a single one stands for itself. -/
def SetTree.ofItems : List SetTree → SetTree
  | [] => .empty
  | [s] => s
  | items => .union items

end ItemScoring.Pattern
