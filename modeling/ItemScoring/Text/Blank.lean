/-!
# Blank characters

The blanks are the code points with the Unicode property `White_Space`. Text is trimmed and cut
into words at blanks, and lists of coordinates are cut at a single separating character.
Functions with the suffix `Chars` work on lists of characters; the others wrap them for strings.
-/

set_option autoImplicit false

namespace ItemScoring.Text

/-- The code points with the property `White_Space`. -/
def isBlank (c : Char) : Bool :=
  let n := c.toNat
  (9 ≤ n && n ≤ 13) || n == 0x20 || n == 0x85 || n == 0xA0 || n == 0x1680
    || (0x2000 ≤ n && n ≤ 0x200A) || n == 0x2028 || n == 0x2029 || n == 0x202F || n == 0x205F
    || n == 0x3000

/-- Drop the blanks at both ends. -/
def trimChars (cs : List Char) : List Char :=
  ((cs.dropWhile isBlank).reverse.dropWhile isBlank).reverse

/-- Drop the blanks at both ends. -/
def trim (s : String) : String :=
  String.ofList (trimChars s.toList)

/-- The maximal runs of characters that are not blank, in order. -/
def wordsChars : List Char → List (List Char)
  | [] => []
  | c :: cs =>
    if isBlank c then wordsChars cs
    else
      match cs with
      | [] => [[c]]
      | d :: _ =>
        if isBlank d then [c] :: wordsChars cs
        else
          match wordsChars cs with
          | [] => [[c]]
          | w :: ws => (c :: w) :: ws

/-- The maximal runs of characters that are not blank, in order. -/
def words (s : String) : List String :=
  (wordsChars s.toList).map String.ofList

/-- The pieces between the occurrences of a separator; there is always at least one. -/
def piecesChars (separator : Char) : List Char → List (List Char)
  | [] => [[]]
  | c :: cs =>
    if c = separator then [] :: piecesChars separator cs
    else
      match piecesChars separator cs with
      | [] => [[c]]
      | p :: ps => (c :: p) :: ps

/-- Whether the first text occurs inside the second as a contiguous run of characters. -/
def occursIn (needle : List Char) : List Char → Bool
  | [] => needle.isEmpty
  | c :: cs => needle.isPrefixOf (c :: cs) || occursIn needle cs

end ItemScoring.Text
