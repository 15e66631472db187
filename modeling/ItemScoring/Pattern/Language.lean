import ItemScoring.Pattern
/-!
# Languages of patterns

A text is matched with a pattern by a library, which decides what texts are well-formed patterns and
looks for their matches. `PatternLanguage.builtIn` is one such library; of the classes of characters
that have a name it knows a selection.
-/

set_option autoImplicit false

namespace ItemScoring

/-- What a library of patterns offers. -/
structure PatternLanguage where
  /-- The test whether some part of a text is a match of a pattern; none for a text that is no
  well-formed pattern. -/
  compile? : List Char → Option (List Char → Bool)

/-- The patterns of `Pattern.compile?`. -/
def PatternLanguage.builtIn : PatternLanguage where
  compile? pattern := (Pattern.compile? pattern).map Pattern.Regex.matchesIn

end ItemScoring
