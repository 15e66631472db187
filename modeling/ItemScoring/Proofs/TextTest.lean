import ItemScoring.Operator.TextTest
import ItemScoring.Proofs.Pattern.Anchoring

/-!
# Matching whole texts

A text is matched with a pattern that is put between the conditions that nothing comes before and
after. What is answered is whether the whole text is a match of the pattern, and a malformed pattern
is reported, for exactly those patterns that are as well formed between conditions as they are
alone. That is so in every language of patterns in which a pattern is looked for everywhere, and in
which conditions and groups have their usual meaning. In the built-in language, a pattern that ends
in a comment or is nested too deeply is well formed alone but not between conditions, and one that
closes the group that it is put into may be well formed between conditions only.
-/

set_option autoImplicit false

namespace ItemScoring

open Pattern (anchored)

namespace PatternLanguage

/-- What is documented of a language of patterns, where `Matches pattern text i j` says that the
part of the text from one place to another is a match of the pattern. -/
structure Lawful (language : PatternLanguage)
    (Matches : List Char → List Char → Nat → Nat → Prop) : Prop where
  /-- A match is looked for everywhere in the text. -/
  searches : ∀ {pattern : List Char} {test : List Char → Bool},
    language.compile? pattern = some test →
      ∀ text, test text = true ↔ ∃ i j, Matches pattern text i j
  /-- The sign `^` matches at the beginning of the text only and the sign `$` at its end only, and a
  group between them matches what the pattern in it matches, whatever flags are set inside. -/
  anchors : ∀ {pattern : List Char}, (language.compile? pattern).isSome = true →
    (language.compile? (anchored pattern)).isSome = true →
      ∀ text i j, Matches (anchored pattern) text i j ↔
        i = 0 ∧ j = text.length ∧ Matches pattern text i j

/-- A pattern is as well formed between conditions as it is alone. -/
def Anchorable (language : PatternLanguage) (pattern : List Char) : Prop :=
  (language.compile? (anchored pattern)).isSome = (language.compile? pattern).isSome

/-! ### The built-in language -/

/-- A part of a text is a match when the expression of the pattern leads over it. -/
def BuiltInMatches (pattern text : List Char) (i j : Nat) : Prop :=
  ∃ r, Pattern.compile? pattern = some r ∧ i ≤ text.length ∧ r.Leads text i j

theorem builtIn_isSome (pattern : List Char) :
    (builtIn.compile? pattern).isSome = (Pattern.compile? pattern).isSome := Option.isSome_map

theorem lawful_builtIn : builtIn.Lawful BuiltInMatches where
  searches {pattern test} compiled text := by
    obtain ⟨r, parsed, rfl⟩ := Option.map_eq_some_iff.mp compiled
    rw [Pattern.Regex.matchesIn_iff]
    constructor
    · rintro ⟨i, j, start, path⟩
      exact ⟨i, j, r, parsed, start, path⟩
    · rintro ⟨i, j, r', parsed', start, path⟩
      cases parsed.symm.trans parsed'
      exact ⟨i, j, start, path⟩
  anchors {pattern} formed whole text i j := by
    rw [builtIn_isSome] at formed whole
    obtain ⟨r, compiled⟩ := Option.isSome_iff_exists.mp formed
    have sound : Pattern.Anchorable pattern := by
      by_contra unsound
      rw [Pattern.compile?_anchored_of_not_anchorable compiled unsound] at whole
      cases whole
    have parts :=
      Pattern.compile?_anchored compiled (sound.open_end formed) (sound.shallow formed)
    constructor
    · rintro ⟨r', compiled', start, path⟩
      cases parts.symm.trans compiled'
      obtain ⟨rfl, rfl, path⟩ := (r.leads_anchored text start).mp path
      exact ⟨rfl, rfl, r, compiled, start, path⟩
    · rintro ⟨rfl, rfl, r', compiled', start, path⟩
      cases compiled.symm.trans compiled'
      exact ⟨_, parts, start, (r.leads_anchored text start).mpr ⟨rfl, rfl, path⟩⟩

/-- In the built-in language, the way in which a pattern is written decides whether it can be put
between conditions. -/
theorem builtIn_anchorable_iff (pattern : List Char) :
    builtIn.Anchorable pattern ↔ Pattern.Anchorable pattern := by
  unfold Anchorable
  rw [builtIn_isSome, builtIn_isSome]
  cases compiled : Pattern.compile? pattern with
  | none =>
      rw [Pattern.anchorable_iff compiled, Option.isSome_none, Bool.eq_false_iff,
        ← Option.not_isSome_iff_eq_none]
  | some r =>
      constructor
      · intro whole
        by_contra unsound
        rw [Pattern.compile?_anchored_of_not_anchorable compiled unsound] at whole
        cases whole
      · intro sound
        have formed : (Pattern.compile? pattern).isSome = true := by
          rw [compiled]
          rfl
        rw [Pattern.compile?_anchored compiled (sound.open_end formed) (sound.shallow formed)]
        rfl

end PatternLanguage

namespace TextTest

open PatternLanguage

section Answers

variable {language : PatternLanguage} {Matches : List Char → List Char → Nat → Nat → Prop}
  {i : Invocation} {pattern : String} {text : List Char}
  (resolved : Attribute.string i.expression i.session "pattern" = .ok (some pattern))
  (operand : text? i 0 = some text)
include resolved operand

/-- What is answered for a pattern and a text. -/
theorem patternMatch_eq :
    patternMatch language i =
      match language.compile? (anchored pattern.toList) with
      | none => Attribute.invalid i.expression "pattern" .pattern
      | some test => .ok (.boolean (test text)) := by
  rw [patternMatch, resolved, operand]
  rfl

/-- What is malformed between conditions is reported. -/
theorem patternMatch_of_malformed
    (malformed : language.compile? (anchored pattern.toList) = none) :
    patternMatch language i = Attribute.invalid i.expression "pattern" .pattern := by
  rw [patternMatch_eq resolved operand, malformed]

/-- For what is well formed between conditions there is an answer. -/
theorem patternMatch_of_formed
    (whole : (language.compile? (anchored pattern.toList)).isSome = true) :
    ∃ answer, patternMatch language i = .ok (.boolean answer) := by
  obtain ⟨test, compiled⟩ := Option.isSome_iff_exists.mp whole
  refine ⟨test text, ?_⟩
  rw [patternMatch_eq resolved operand, compiled]

/-- A pattern that is well formed alone and between conditions is matched with the whole text. -/
theorem patternMatch_of_anchored (lawful : language.Lawful Matches)
    (formed : (language.compile? pattern.toList).isSome = true)
    (whole : (language.compile? (anchored pattern.toList)).isSome = true) :
    ∃ answer, patternMatch language i = .ok (.boolean answer) ∧
      (answer = true ↔ Matches pattern.toList text 0 text.length) := by
  obtain ⟨test, compiled⟩ := Option.isSome_iff_exists.mp whole
  refine ⟨test text, ?_, ?_⟩
  · rw [patternMatch_eq resolved operand, compiled]
  · rw [lawful.searches compiled]
    constructor
    · rintro ⟨k, l, found⟩
      obtain ⟨rfl, rfl, found⟩ := (lawful.anchors formed whole text k l).mp found
      exact found
    · exact fun found => ⟨0, text.length, (lawful.anchors formed whole text _ _).mpr
        ⟨rfl, rfl, found⟩⟩

end Answers

/-- A malformed pattern is reported, and for a well-formed one it is answered whether it matches the
whole text, exactly if the pattern can be put between conditions. In every other case a well-formed
pattern is reported as malformed, and for a malformed one there is an answer. -/
theorem patternMatch_whole_iff {language : PatternLanguage}
    {Matches : List Char → List Char → Nat → Nat → Prop} (lawful : language.Lawful Matches)
    (i : Invocation) {pattern : String} {text : List Char}
    (resolved : Attribute.string i.expression i.session "pattern" = .ok (some pattern))
    (operand : text? i 0 = some text) :
    (((language.compile? pattern.toList = none →
          patternMatch language i = Attribute.invalid i.expression "pattern" .pattern) ∧
        ((language.compile? pattern.toList).isSome = true → ∃ answer,
          patternMatch language i = .ok (.boolean answer) ∧
            (answer = true ↔ Matches pattern.toList text 0 text.length))) ↔
      language.Anchorable pattern.toList) ∧
    (¬language.Anchorable pattern.toList → (language.compile? pattern.toList).isSome = true →
      patternMatch language i = Attribute.invalid i.expression "pattern" .pattern) ∧
    (¬language.Anchorable pattern.toList → language.compile? pattern.toList = none →
      ∃ answer, patternMatch language i = .ok (.boolean answer)) := by
  unfold Anchorable
  cases formed : language.compile? pattern.toList with
  | none =>
      cases whole : language.compile? (anchored pattern.toList) with
      | none =>
          have reported := patternMatch_of_malformed resolved operand whole
          simp [reported]
      | some test =>
          obtain ⟨answer, given⟩ :=
            patternMatch_of_formed resolved operand (Option.isSome_iff_exists.mpr ⟨test, whole⟩)
          simp [given, Attribute.invalid]
  | some test =>
      cases whole : language.compile? (anchored pattern.toList) with
      | none =>
          have reported := patternMatch_of_malformed resolved operand whole
          simp [reported, Attribute.invalid]
      | some test' =>
          have answered := patternMatch_of_anchored resolved operand lawful
            (Option.isSome_iff_exists.mpr ⟨test, formed⟩)
            (Option.isSome_iff_exists.mpr ⟨test', whole⟩)
          simp only [reduceCtorEq, false_implies, Option.isSome_some, forall_const, true_and,
            iff_true, not_true_eq_false, and_true]
          exact answered

/-- A text that is matched with a pattern. -/
def matching (pattern text : String) : Invocation :=
  ⟨.leaf "patternMatch" [("pattern", pattern)], [some (.single .string (.string text))], .empty⟩

/-- A pattern that is not the identifier of a variable in braces is taken as it is. -/
theorem string_matching (pattern text : String)
    (literal : Attribute.reference? pattern = none) :
    Attribute.string (matching pattern text).expression (matching pattern text).session
      "pattern" = .ok (some pattern) := by
  have there : (matching pattern text).expression.attribute? "pattern" = some pattern := rfl
  rw [Attribute.string, there]
  dsimp only
  rw [literal]

/-- A choice is matched as a whole. -/
theorem choice_matches_whole :
    let i := matching "a|b" "b"
    Attribute.string i.expression i.session "pattern" = .ok (some "a|b") ∧
      text? i 0 = some "b".toList ∧ builtIn.Anchorable "a|b".toList ∧
      ∃ answer, patternMatch .builtIn i = .ok (.boolean answer) ∧
        (answer = true ↔ BuiltInMatches "a|b".toList "b".toList 0 1) := by
  intro i
  have resolved := string_matching "a|b" "b" (by decide +kernel)
  have operand : text? i 0 = some "b".toList := rfl
  have shallow : (Pattern.readTree "a|b".toList).all
      (fun t => t.depth + 2 ≤ Pattern.nestLimit) = true := by
    decide +kernel
  have sound : builtIn.Anchorable "a|b".toList := by
    refine (builtIn_anchorable_iff _).mpr
      (Pattern.anchorable_of_not_mem (by decide +kernel) (by decide +kernel) ?_)
    rintro ⟨t, formed, deep⟩
    rw [formed, Option.all_some, decide_eq_true_iff] at shallow
    omega
  have formed : (builtIn.compile? "a|b".toList).isSome = true := by decide +kernel
  obtain ⟨answer, given, whole⟩ :=
    ((patternMatch_whole_iff lawful_builtIn i resolved operand).1.mpr sound).2 formed
  exact ⟨resolved, operand, sound, answer, given, whole⟩

/-- A closing parenthesis closes the group that the pattern is put into, and a comment swallows its
end: the first pattern is malformed but matched, the second one well formed but reported. -/
theorem patternMatch_not_whole :
    let i := matching "a)|(b" "axxx"
    let j := matching "(?x)a#b" "a"
    (Attribute.string i.expression i.session "pattern" = .ok (some "a)|(b") ∧
      text? i 0 = some "axxx".toList ∧ builtIn.compile? "a)|(b".toList = none ∧
      patternMatch .builtIn i = .ok (.boolean true)) ∧
    Attribute.string j.expression j.session "pattern" = .ok (some "(?x)a#b") ∧
      text? j 0 = some "a".toList ∧ (builtIn.compile? "(?x)a#b".toList).isSome = true ∧
      patternMatch .builtIn j = Attribute.invalid j.expression "pattern" .pattern := by
  intro i j
  have resolved := string_matching "a)|(b" "axxx" (by decide +kernel)
  have malformed : (builtIn.compile? "a)|(b".toList).isNone = true := by decide +kernel
  have matched : (builtIn.compile? (anchored "a)|(b".toList)).map
      (fun test => test "axxx".toList) = some true := by decide +kernel
  have resolved' := string_matching "(?x)a#b" "a" (by decide +kernel)
  have formed : (builtIn.compile? "(?x)a#b".toList).isSome = true := by decide +kernel
  have lost : (builtIn.compile? (anchored "(?x)a#b".toList)).isNone = true := by decide +kernel
  have operand : text? i 0 = some "axxx".toList := rfl
  have operand' : text? j 0 = some "a".toList := rfl
  obtain ⟨whole, compiled, answer⟩ := Option.map_eq_some_iff.mp matched
  refine ⟨⟨resolved, operand, Option.isNone_iff_eq_none.mp malformed, ?_⟩, resolved', operand',
    formed, ?_⟩
  · rw [patternMatch_eq resolved operand, compiled]
    exact congrArg (fun b => Except.ok (Operand.boolean b)) answer
  · exact patternMatch_of_malformed resolved' operand' (Option.isNone_iff_eq_none.mp lost)

end TextTest

end ItemScoring
