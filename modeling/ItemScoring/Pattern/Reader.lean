import ItemScoring.Pattern.Tree
import ItemScoring.Text.Hexadecimal
/-!
# Reading patterns

A pattern is read from the front to the back. Every reader takes the text that is left and yields
what it read and what is left after that, or nothing when the text is malformed. In verbose mode,
blanks and comments between the parts of a pattern are ignored; the mode is switched by a flag and
falls back at the end of a group.
-/

set_option autoImplicit false

namespace ItemScoring.Pattern

/-- Drop blanks and comments; a comment reaches to the end of its line. -/
def skipIgnored (inComment : Bool) : List Char → List Char
  | [] => []
  | c :: cs =>
    if inComment then skipIgnored (c ≠ '\n') cs
    else if Text.isBlank c then skipIgnored false cs
    else if c = '#' then skipIgnored true cs
    else c :: cs

/-- Drop blanks and comments in verbose mode. -/
def skip (verbose : Bool) (cs : List Char) : List Char :=
  if verbose then skipIgnored false cs else cs

/-- The part of a pattern that an escape or a character stands for. -/
inductive Atom where
  /-- A character. -/
  | literal (c : Char) (byte : Bool)
  /-- A condition on the place. -/
  | assertion (a : Assertion)
  /-- A class with a letter of its own. -/
  | shorthand (s : Shorthand) (negated : Bool)
  /-- A Unicode property. -/
  | property (name : String) (negated : Bool)

/-- An atom as a pattern. -/
def Atom.tree : Atom → Tree
  | .literal c byte => .literal c byte
  | .assertion a => .assertion a
  | .shorthand s negated => .shorthand s negated
  | .property name negated => .property name negated

/-- An atom as an item of a set; conditions on the place are none. -/
def Atom.setItem? : Atom → Option SetTree
  | .literal c _ => some (.range c c)
  | .assertion _ => none
  | .shorthand s negated => some (.shorthand s negated)
  | .property name negated => some (.property name negated)

/-- The character with a code point that is one. -/
def charOf? (n : Nat) : Option Char := if n.isValidChar then some (Char.ofNat n) else none

/-- A fixed number of hexadecimal digits, continued from the value of those before. -/
def readHexDigits (verbose : Bool) : Nat → Nat → List Char → Option (Nat × List Char)
  | 0, value, cs => some (value, cs)
  | _ + 1, _, [] => none
  | count + 1, value, c :: cs => do
    let d ← Text.hexDigit? c
    readHexDigits verbose count (16 * value + d) (skip verbose cs)

/-- Hexadecimal digits up to a closing brace, continued from those before; `some` digit is needed.
-/
def readHexBrace (verbose : Bool) : Nat → Option Nat → List Char → Option (Nat × List Char)
  | 0, _, _ => none
  | fuel + 1, value, cs =>
    match skip verbose cs with
    | [] => none
    | c :: rest =>
      if c = '\x7d' then value.map fun n => (n, skip verbose rest)
      else do
        let d ← Text.hexDigit? c
        readHexBrace verbose fuel (some (16 * value.getD 0 + d)) rest

/-- A code point in hexadecimal, after the letter that announces it: in braces, or with a fixed
number of digits. -/
def readHex (verbose : Bool) (digits : Nat) (cs : List Char) : Option (Char × List Char) := do
  let (n, rest) ←
    match skip verbose cs with
    | '\x7b' :: rest => readHexBrace verbose (rest.length + 1) none rest
    | rest => readHexDigits verbose digits 0 rest
  let c ← charOf? n
  return (c, rest)

/-- The name of a property up to its closing brace. -/
def readPropertyName (verbose : Bool) : Nat → List Char → List Char → Option (String × List Char)
  | 0, _, _ => none
  | fuel + 1, sofar, cs =>
    match skip verbose cs with
    | [] => none
    | c :: rest =>
      if c = '\x7d' then some (String.ofList sofar.reverse, rest)
      else readPropertyName verbose fuel (c :: sofar) rest

/-- A Unicode property, after the letter that announces it: a name in braces, or one letter. -/
def readProperty (verbose : Bool) (cs : List Char) : Option (String × List Char) :=
  match skip verbose cs with
  | [] => none
  | c :: rest =>
    if c = '\x7b' then readPropertyName verbose (rest.length + 1) [] rest
    else if c = '\\' then none
    else some (String.singleton c, skip verbose rest)

/-- The characters of the names of boundaries. -/
def isBoundaryChar (c : Char) : Bool := c.isAlpha || c = '-'

/-- The letters of the name of a boundary, and what is left. -/
def readBoundaryName (verbose : Bool) : Nat → List Char → List Char → List Char × List Char
  | 0, sofar, cs => (sofar.reverse, cs)
  | _ + 1, sofar, [] => (sofar.reverse, [])
  | fuel + 1, sofar, c :: cs =>
    if isBoundaryChar c then readBoundaryName verbose fuel (c :: sofar) (skip verbose cs)
    else (sofar.reverse, c :: cs)

/-- The boundary with the given name. -/
def boundaryOfName? (name : List Char) : Option Assertion :=
  if name = "start".toList then some .wordStart
  else if name = "end".toList then some .wordEnd
  else if name = "start-half".toList then some .wordStartHalf
  else if name = "end-half".toList then some .wordEndHalf
  else none

/-- A boundary of a word, after the letter that announces it. A name in braces may follow; braces
that do not begin with a letter are left for a repetition. -/
def readBoundary (verbose : Bool) (cs : List Char) : Option (Assertion × List Char) :=
  match cs with
  | '\x7b' :: rest =>
    match skip verbose rest with
    | [] => none
    | c :: inner =>
      if isBoundaryChar c then
        match readBoundaryName verbose (inner.length + 1) [] (c :: inner) with
        | (name, '\x7d' :: after) => (boundaryOfName? name).map fun a => (a, after)
        | _ => none
      else some (.wordBoundary, cs)
  | _ => some (.wordBoundary, cs)

/-- The characters that an escape takes literally. -/
def isEscapable (c : Char) : Bool :=
  c.toNat < 128 && !c.isAlphanum && c ≠ '<' && c ≠ '>'

/-- The control character that an escaped letter stands for. -/
def controlOfLetter? (c : Char) : Option Char :=
  if c = 'a' then some (Char.ofNat 7)
  else if c = 'f' then some (Char.ofNat 12)
  else if c = 't' then some '\t'
  else if c = 'n' then some '\n'
  else if c = 'r' then some '\r'
  else if c = 'v' then some (Char.ofNat 11)
  else none

/-- The class that an escaped letter stands for. -/
def shorthandOfLetter? (c : Char) : Option (Shorthand × Bool) :=
  if c = 'd' then some (.digit, false)
  else if c = 'D' then some (.digit, true)
  else if c = 's' then some (.blank, false)
  else if c = 'S' then some (.blank, true)
  else if c = 'w' then some (.word, false)
  else if c = 'W' then some (.word, true)
  else none

/-- The condition, other than a boundary, that an escaped character stands for. -/
def assertionOfLetter? (c : Char) : Option Assertion :=
  if c = 'A' then some .textStart
  else if c = 'z' then some .textEnd
  else if c = 'B' then some .notWordBoundary
  else if c = '<' then some .wordStart
  else if c = '>' then some .wordEnd
  else none

/-- How many hexadecimal digits follow an escaped letter that announces a code point. -/
def hexDigitsOfLetter? (c : Char) : Option Nat :=
  if c = 'x' then some 2
  else if c = 'u' then some 4
  else if c = 'U' then some 8
  else none

/-- Whether two hexadecimal digits follow, and not a brace. -/
def isByteEscape (verbose : Bool) (letter : Char) (cs : List Char) : Bool :=
  letter = 'x' && (skip verbose cs).head? ≠ some '\x7b'

/-- An escape, after its backslash. -/
def readEscape (verbose : Bool) : List Char → Option (Atom × List Char)
  | [] => none
  | c :: cs =>
    if let some digits := hexDigitsOfLetter? c then
      (readHex verbose digits cs).map fun (d, rest) =>
        (.literal d (isByteEscape verbose c cs), rest)
    else if c = 'p' ∨ c = 'P' then
      (readProperty verbose cs).map fun (name, rest) => (.property name (c = 'P'), rest)
    else if let some (s, negated) := shorthandOfLetter? c then some (.shorthand s negated, cs)
    else if isEscapable c then some (.literal c false, cs)
    else if let some d := controlOfLetter? c then some (.literal d false, cs)
    else if c = 'b' then (readBoundary verbose cs).map fun (a, rest) => (.assertion a, rest)
    else (assertionOfLetter? c).map fun a => (.assertion a, cs)

/-- The ASCII classes that have a name between colons. -/
def namedClasses : List (String × CharSet) :=
  [("alnum", .unions [.range '0' '9', .range 'A' 'Z', .range 'a' 'z']),
    ("alpha", .unions [.range 'A' 'Z', .range 'a' 'z']),
    ("ascii", .range (Char.ofNat 0) (Char.ofNat 127)),
    ("blank", .unions [.singleton '\t', .singleton ' ']),
    ("cntrl", .unions [.range (Char.ofNat 0) (Char.ofNat 31), .singleton (Char.ofNat 127)]),
    ("digit", .range '0' '9'),
    ("graph", .range '!' '~'),
    ("lower", .range 'a' 'z'),
    ("print", .range ' ' '~'),
    ("punct", .unions [.range '!' '/', .range ':' '@', .range '[' (Char.ofNat 96),
      .range '\x7b' '~']),
    ("space", .asciiBlank),
    ("upper", .range 'A' 'Z'),
    ("word", .asciiWord),
    ("xdigit", .unions [.range '0' '9', .range 'A' 'F', .range 'a' 'f'])]

/-- A class with a name between colons, after its opening bracket. -/
def readNamed? (cs : List Char) : Option (SetTree × List Char) :=
  match cs with
  | ':' :: rest =>
    let (negated, body) :=
      match rest with
      | '^' :: body => (true, body)
      | body => (false, body)
    match body.dropWhile (· ≠ ':') with
    | ':' :: ']' :: after =>
      (namedClasses.lookup (String.ofList (body.takeWhile (· ≠ ':')))).map fun s =>
        (.named s negated, after)
    | _ => none
  | _ => none

/-- The next character after the current one, where a range is told from a hyphen. In verbose mode
blanks are skipped, and so is the sign that begins a comment. -/
def peekPast (verbose : Bool) (cs : List Char) : Option Char :=
  if verbose then
    match cs.dropWhile Text.isBlank with
    | '#' :: rest => (rest.dropWhile Text.isBlank).head?
    | rest => rest.head?
  else cs.head?

/-- One end of a range, or a single item of a set. -/
def readSetAtom (verbose : Bool) : List Char → Option (Atom × List Char)
  | [] => none
  | c :: cs => if c = '\\' then readEscape verbose cs else some (.literal c false, cs)

/-- A range of characters, or a single item of a set. -/
def readSetItem (verbose : Bool) (cs : List Char) : Option (SetTree × List Char) := do
  let (first, rest) ← readSetAtom verbose cs
  match skip verbose rest with
  | [] => none
  | '-' :: after =>
    let next := peekPast verbose after
    if next = some ']' ∨ next = some '-' then
      let item ← first.setItem?
      return (item, '-' :: after)
    else
      let (second, rest) ← readSetAtom verbose (skip verbose after)
      match first, second with
      | .literal low _, .literal high _ =>
        if low ≤ high then some (.range low high, rest) else none
      | _, _ => none
  | rest =>
    let item ← first.setItem?
    return (item, rest)

/-- Leading hyphens of a set stand for themselves. The items read so far are kept in reverse. -/
def readHyphens (verbose : Bool) : Nat → List SetTree → List Char → List SetTree × List Char
  | 0, items, cs => (items, cs)
  | fuel + 1, items, '-' :: cs =>
    readHyphens verbose fuel (.range '-' '-' :: items) (skip verbose cs)
  | _ + 1, items, cs => (items, cs)

/-- The beginning of a set, after its opening bracket: whether it is negated, the items that have a
meaning of their own only there, in reverse, and what is left. -/
def readSetStart (verbose : Bool) (cs : List Char) : Bool × List SetTree × List Char :=
  let (negated, cs) :=
    match skip verbose cs with
    | '^' :: rest => (true, skip verbose rest)
    | rest => (false, rest)
  match readHyphens verbose (cs.length + 1) [] cs with
  | ([], ']' :: rest) => (negated, [.range ']' ']'], skip verbose rest)
  | (items, rest) => (negated, items, rest)

/-- Items side by side, kept in reverse, as the right operand of the operation before them. -/
def closeItems (pending : Option (SetOperation × SetTree)) (items : List SetTree) : SetTree :=
  match pending with
  | some (operation, left) => .combine operation left (.ofItems items.reverse)
  | none => .ofItems items.reverse

/-- What stands between the brackets of a set, up to the closing one. Operations are taken from left
to right. -/
def readSetBody (verbose : Bool) : Nat → Option (SetOperation × SetTree) → List SetTree →
    List Char → Option (SetTree × List Char)
  | 0, _, _, _ => none
  | fuel + 1, pending, items, cs =>
    match skip verbose cs with
    | [] => none
    | '[' :: rest =>
      match readNamed? rest with
      | some (item, rest) => readSetBody verbose fuel pending (item :: items) rest
      | none => do
        let (negated, start, rest) := readSetStart verbose rest
        let (body, rest) ← readSetBody verbose fuel none start rest
        readSetBody verbose fuel pending (.bracket negated body :: items) rest
    | ']' :: rest => some (closeItems pending items, rest)
    | '&' :: '&' :: rest =>
      readSetBody verbose fuel (some (.intersection, closeItems pending items)) [] rest
    | '-' :: '-' :: rest =>
      readSetBody verbose fuel (some (.difference, closeItems pending items)) [] rest
    | '~' :: '~' :: rest =>
      readSetBody verbose fuel (some (.symmetricDifference, closeItems pending items)) [] rest
    | rest => do
      let (item, rest) ← readSetItem verbose rest
      readSetBody verbose fuel pending (item :: items) rest

/-- A set, after its opening bracket. -/
def readSet (verbose : Bool) (cs : List Char) : Option (Tree × List Char) := do
  let (negated, start, rest) := readSetStart verbose cs
  let (body, rest) ← readSetBody verbose (cs.length + 1) none start rest
  return (.set negated body, rest)

/-- The digits of a count, continued from those before, with ignored text between them. -/
def readCountDigits (verbose : Bool) : Nat → Option Nat → List Char → Option Nat × List Char
  | 0, value, cs => (value, cs)
  | _ + 1, value, [] => (value, [])
  | fuel + 1, value, c :: cs =>
    if c.isDigit then
      readCountDigits verbose fuel (some (10 * value.getD 0 + (c.toNat - '0'.toNat)))
        (skip verbose cs)
    else (value, c :: cs)

/-- Drop blanks, and what verbose mode ignores between them. -/
def skipBlanks (verbose : Bool) : Nat → List Char → List Char
  | 0, cs => cs
  | _ + 1, [] => []
  | fuel + 1, c :: cs =>
    if Text.isBlank c then skipBlanks verbose fuel (skip verbose cs) else c :: cs

/-- Counts are below this bound, `2 ^ 32`. -/
def countBound : Nat := 4294967296

/-- A count with blanks around it; there may be none. A count that does not fit 32 bits is
malformed. -/
def readCount (verbose : Bool) (cs : List Char) : Option (Option Nat × List Char) :=
  let start := cs.dropWhile Text.isBlank
  let (value, rest) := readCountDigits verbose (start.length + 1) none start
  if countBound ≤ value.getD 0 then none
  else some (value, skipBlanks verbose (rest.length + 1) rest)

/-- The mark of a lazy repetition, which changes nothing about what matches. -/
def skipLazy : List Char → List Char
  | '?' :: rest => rest
  | rest => rest

/-- The bounds of a repetition, after the opening brace. -/
def readBounds (verbose : Bool) (cs : List Char) : Option (Nat × Option Nat × List Char) := do
  let (first, rest) ← readCount verbose (skip verbose cs)
  let (least, most, rest) ←
    match rest with
    | ',' :: rest =>
      match skip verbose rest with
      | '\x7d' :: rest => first.map fun n => (n, none, '\x7d' :: rest)
      | rest => do
        let least ← first
        let (second, rest) ← readCount verbose rest
        let most ← second
        some (least, some most, rest)
    | rest => first.map fun n => (n, some n, rest)
  match rest with
  | '\x7d' :: rest =>
    if most.all (least ≤ ·) then some (least, most, skipLazy (skip verbose rest)) else none
  | _ => none

/-- Repeat the last pattern of a sequence, which is kept in reverse. Flags cannot be repeated. -/
def repeatLast (least : Nat) (most : Option Nat) : List Tree → Option (List Tree)
  | [] => none
  | .empty :: _ => none
  | .flags _ :: _ => none
  | t :: ts => some (.repetition least most t :: ts)

/-- A flag is switched on or off once. -/
def switchFlag (change : FlagChange) (on : Bool) (c : Char) : Option FlagChange :=
  if c = 'i' ∧ change.ignoreCase = none then some { change with ignoreCase := some on }
  else if c = 'm' ∧ change.multiLine = none then some { change with multiLine := some on }
  else if c = 's' ∧ change.dotAll = none then some { change with dotAll := some on }
  else if c = 'R' ∧ change.crlf = none then some { change with crlf := some on }
  else if c = 'u' ∧ change.unicode = none then some { change with unicode := some on }
  else if c = 'x' ∧ change.verbose = none then some { change with verbose := some on }
  else none

/-- What has been read of a list of flags. -/
structure FlagReading where
  /-- The flags that change matching. -/
  change : FlagChange
  /-- Whether the flag that swaps lazy and eager repetition has been read. -/
  swapped : Bool
  /-- Whether the hyphen has been read, after which flags are switched off. -/
  negated : Bool
  /-- Whether nothing has been read. -/
  empty : Bool
  /-- Whether the hyphen was read last. -/
  dangling : Bool

/-- Flags up to a colon or a closing parenthesis, which is left. -/
def readFlags (r : FlagReading) : List Char → Option (FlagReading × List Char)
  | [] => none
  | c :: cs =>
    if c = ':' ∨ c = ')' then (if r.dangling then none else some (r, c :: cs))
    else if c = '-' then
      if r.negated then none
      else readFlags { r with negated := true, empty := false, dangling := true } cs
    else if c = 'U' then
      if r.swapped then none
      else readFlags { r with swapped := true, empty := false, dangling := false } cs
    else
      match switchFlag r.change (!r.negated) c with
      | some change => readFlags { r with change, empty := false, dangling := false } cs
      | none => none

/-- Whether a character may stand in the name of a group. -/
def isNameChar (first : Bool) (c : Char) : Bool :=
  if first then c = '_' || Text.isAlphabetic c
  else c = '_' || c = '.' || c = '[' || c = ']' || Text.isAlphanumeric c

/-- The name of a group up to its closing angle bracket; it has at least one character. -/
def readName (sofar : List Char) : List Char → Option (List Char × List Char)
  | [] => none
  | c :: cs =>
    if c = '>' then (if sofar.isEmpty then none else some (sofar.reverse, cs))
    else if isNameChar sofar.isEmpty c then readName (c :: sofar) cs
    else none

/-- What an opening parenthesis begins. -/
inductive Opening where
  /-- Flags for the rest of the group. -/
  | flags (change : FlagChange)
  /-- A group with flags for it alone. -/
  | group (change : FlagChange)
  /-- A group with a name. -/
  | named (name : List Char)

/-- The beginning of a group, after its opening parenthesis. Conditions on what surrounds a place
are not supported. -/
def readOpening (verbose : Bool) (cs : List Char) : Option (Opening × List Char) :=
  match skip verbose cs with
  | '?' :: '=' :: _ => none
  | '?' :: '!' :: _ => none
  | '?' :: '<' :: '=' :: _ => none
  | '?' :: '<' :: '!' :: _ => none
  | '?' :: 'P' :: '<' :: rest => (readName [] rest).map fun (name, rest) => (.named name, rest)
  | '?' :: '<' :: rest => (readName [] rest).map fun (name, rest) => (.named name, rest)
  | '?' :: rest =>
    match readFlags ⟨.none, false, false, true, false⟩ rest with
    | some (r, ')' :: rest) => if r.empty then none else some (.flags r.change, rest)
    | some (r, _ :: rest) => some (.group r.change, rest)
    | _ => none
  | rest => some (.group .none, rest)

/-- What is carried along while a pattern is read. -/
structure Reading where
  /-- Whether blanks and comments are ignored. -/
  verbose : Bool
  /-- The names of groups so far. -/
  names : List (List Char)

/-- A choice up to a closing parenthesis, which is left, or the end of the pattern. The branches and
the patterns of the last branch are kept in reverse. -/
def readChoice : Nat → Reading → List Tree → List Tree → List Char →
    Option (Tree × Reading × List Char)
  | 0, _, _, _, _ => none
  | fuel + 1, r, branches, items, cs =>
    let closed := Tree.ofSequence items.reverse
    match skip r.verbose cs with
    | [] => some (.ofAlternation (closed :: branches).reverse, r, [])
    | c :: rest =>
      if c = ')' then some (.ofAlternation (closed :: branches).reverse, r, c :: rest)
      else if c = '|' then readChoice fuel r (closed :: branches) [] rest
      else if c = '(' then
        match readOpening r.verbose rest with
        | none => none
        | some (.flags change, rest) =>
          readChoice fuel { r with verbose := change.verbose.getD r.verbose } branches
            (.flags change :: items) rest
        | some (.group change, rest) =>
          match readChoice fuel { r with verbose := change.verbose.getD r.verbose } [] [] rest with
          | some (t, inner, ')' :: rest) =>
            readChoice fuel { inner with verbose := r.verbose } branches (.group change t :: items)
              rest
          | _ => none
        | some (.named name, rest) =>
          if r.names.contains name then none
          else
            match readChoice fuel { r with names := name :: r.names } [] [] rest with
            | some (t, inner, ')' :: rest) =>
              readChoice fuel { inner with verbose := r.verbose } branches (.group .none t :: items)
                rest
            | _ => none
      else if c = '[' then
        match readSet r.verbose rest with
        | some (t, rest) => readChoice fuel r branches (t :: items) rest
        | none => none
      else if c = '?' then
        match repeatLast 0 (some 1) items with
        | some items => readChoice fuel r branches items (skipLazy rest)
        | none => none
      else if c = '*' then
        match repeatLast 0 none items with
        | some items => readChoice fuel r branches items (skipLazy rest)
        | none => none
      else if c = '+' then
        match repeatLast 1 none items with
        | some items => readChoice fuel r branches items (skipLazy rest)
        | none => none
      else if c = '\x7b' then
        match readBounds r.verbose rest with
        | none => none
        | some (least, most, rest) =>
          match repeatLast least most items with
          | some items => readChoice fuel r branches items rest
          | none => none
      else if c = '\\' then
        match readEscape r.verbose rest with
        | some (atom, rest) => readChoice fuel r branches (atom.tree :: items) rest
        | none => none
      else
        let t : Tree :=
          if c = '.' then .dot
          else if c = '^' then .assertion .lineStart
          else if c = '$' then .assertion .lineEnd
          else .literal c false
        readChoice fuel r branches (t :: items) rest

/-- How deeply a pattern may be nested. -/
def nestLimit : Nat := 250

/-- The tree of a whole pattern. Every step of the reader takes at least one character. -/
def readTree (cs : List Char) : Option Tree :=
  match readChoice (cs.length + 1) ⟨false, []⟩ [] [] cs with
  | some (t, _, []) => if t.depth ≤ nestLimit then some t else none
  | _ => none

end ItemScoring.Pattern
