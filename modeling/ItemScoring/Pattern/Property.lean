import ItemScoring.Pattern.CharSet
import ItemScoring.Text.Script
/-!
# Unicode properties by name

A pattern names a set of characters by a general category, by a script, or by a property that
characters have or lack. Names are compared loosely: case, blanks, hyphens and underscores do not
count, nor does the word `is` in front. A name and a value may be given together, with a sign
between them that says whether the value is wanted. Of scripts and properties, the built-in language
knows a selection and refuses the names of all others.
-/

set_option autoImplicit false

namespace ItemScoring.Pattern

/-- The characters of several general categories. -/
def CharSet.categories (gs : List Text.Category) : CharSet := .unions (gs.map .category)

/-- The characters that have been assigned a meaning. -/
def CharSet.assigned : CharSet := .categories Text.Category.all

/-- The other characters: controls, formats, private use and what has no meaning yet. -/
def CharSet.other : CharSet :=
  .union (.categories [.control, .format, .privateUse]) (.complement .assigned)

/-- The names of general categories and of their groups. -/
def categoryNames : List (List String × CharSet) :=
  [(["any"], .all), (["ascii"], .range (Char.ofNat 0) (Char.ofNat 127)),
    (["assigned"], .assigned), (["l", "letter"], .categories Text.Category.letters),
    (["lc", "casedletter"], .categories Text.Category.casedLetters),
    (["lu", "uppercaseletter"], .category .uppercaseLetter),
    (["ll", "lowercaseletter"], .category .lowercaseLetter),
    (["lt", "titlecaseletter"], .category .titlecaseLetter),
    (["lm", "modifierletter"], .category .modifierLetter),
    (["lo", "otherletter"], .category .otherLetter),
    (["m", "mark", "combiningmark"], .categories Text.Category.marks),
    (["mn", "nonspacingmark"], .category .nonspacingMark),
    (["mc", "spacingmark"], .category .spacingMark),
    (["me", "enclosingmark"], .category .enclosingMark),
    (["n", "number"], .categories Text.Category.numbers),
    (["nd", "decimalnumber", "digit"], .category .decimalNumber),
    (["nl", "letternumber"], .category .letterNumber),
    (["no", "othernumber"], .category .otherNumber),
    (["p", "punctuation", "punct"], .categories Text.Category.punctuation),
    (["pc", "connectorpunctuation"], .category .connectorPunctuation),
    (["pd", "dashpunctuation"], .category .dashPunctuation),
    (["ps", "openpunctuation"], .category .openPunctuation),
    (["pe", "closepunctuation"], .category .closePunctuation),
    (["pi", "initialpunctuation"], .category .initialPunctuation),
    (["pf", "finalpunctuation"], .category .finalPunctuation),
    (["po", "otherpunctuation"], .category .otherPunctuation),
    (["s", "symbol"], .categories Text.Category.symbols),
    (["sm", "mathsymbol"], .category .mathSymbol),
    (["sc", "currencysymbol"], .category .currencySymbol),
    (["sk", "modifiersymbol"], .category .modifierSymbol),
    (["so", "othersymbol"], .category .otherSymbol),
    (["z", "separator"], .categories Text.Category.separators),
    (["zs", "spaceseparator"], .category .spaceSeparator),
    (["zl", "lineseparator"], .category .lineSeparator),
    (["zp", "paragraphseparator"], .category .paragraphSeparator), (["c", "other"], .other),
    (["cc", "control", "cntrl"], .category .control), (["cf", "format"], .category .format),
    (["co", "privateuse"], .category .privateUse),
    (["cn", "unassigned"], .complement .assigned)]

/-- The names of properties that characters have or lack. -/
def binaryNames : List (List String × CharSet) :=
  [(["alphabetic", "alpha"], .alphabetic),
    (["lowercase", "lower"],
      .union (.category .lowercaseLetter) (.ranges Text.otherLowercaseRanges)),
    (["uppercase", "upper"],
      .union (.category .uppercaseLetter) (.ranges Text.otherUppercaseRanges)),
    (["whitespace", "wspace", "space"], .blank)]

/-- The set that has a name in a list of names. -/
def setOfName? (table : List (List String × CharSet)) (name : String) : Option CharSet :=
  (table.find? fun entry => entry.1.contains name).map (·.2)

/-- The characters of the script with the given name. -/
def scriptOfName? (name : String) : Option CharSet :=
  (Text.Script.names.lookup name).map fun s => .ranges s.ranges

/-- Whether a character of a name counts. -/
def isSymbolChar (c : Char) : Bool := c.toNat < 128 && c ≠ ' ' && c ≠ '_' && c ≠ '-'

/-- The form of a name in which names are compared. A name that is only one letter after the word in
front is that of another property. -/
def looseName (cs : List Char) : String :=
  match cs.map Char.toLower with
  | 'i' :: 's' :: rest =>
    let name := rest.filter isSymbolChar
    String.ofList (if name = ['c'] then ['i', 's', 'c'] else name)
  | cs => String.ofList (cs.filter isSymbolChar)

/-- The set that a name stands for: a property, a general category or a script. -/
def setOfSingleName? (name : String) : Option CharSet :=
  (setOfName? binaryNames name).orElse fun _ =>
    (setOfName? categoryNames name).orElse fun _ => scriptOfName? name

/-- The set that a name and a value stand for. -/
def setOfPair? (name value : String) : Option CharSet :=
  if name = "gc" ∨ name = "generalcategory" then setOfName? categoryNames value
  else if name = "sc" ∨ name = "script" then scriptOfName? value
  else none

/-- The parts of a text around the first occurrence of a sign. -/
def splitAround? (sign : List Char) : List Char → Option (List Char × List Char)
  | [] => none
  | c :: cs =>
    if sign.isPrefixOf (c :: cs) then some ([], (c :: cs).drop sign.length)
    else (splitAround? sign cs).map fun (before, after) => (c :: before, after)

/-- The set that the text between the braces of a property stands for. -/
def propertyOfName? (raw : String) : Option CharSet :=
  match splitAround? ['!', '='] raw.toList with
  | some (name, value) =>
    (setOfPair? (looseName name) (looseName value)).map CharSet.complement
  | none =>
    match (splitAround? [':'] raw.toList).orElse fun _ => splitAround? ['='] raw.toList with
    | some (name, value) => setOfPair? (looseName name) (looseName value)
    | none => setOfSingleName? (looseName raw.toList)

end ItemScoring.Pattern
