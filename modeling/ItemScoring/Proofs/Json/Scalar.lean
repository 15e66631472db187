import ItemScoring.Scalar.Cast
import ItemScoring.Proofs.Binary64.Pattern
import ItemScoring.Proofs.Integer

/-!
# Scalars that their JSON form stands for

The JSON form of a scalar does not show its kind: names, texts, points, pairs and the words for what
is not finite are all strings. A scalar is portable for a base type when reading its JSON form for
that base type gives the scalar back. Two things stand against it. A reader that trims or cuts its
text loses blanks, and a reader that takes more than one kind may take a text for the other kind.
Durations are left out, since their seconds are rounded. What is no number is written as one word,
whatever its bit pattern, and is read back in its usual pattern.
-/

set_option autoImplicit false

namespace ItemScoring

/-- A pattern, with the usual one in place of every pattern of what is no number. -/
def Binary64.usual (b : Binary64) : Binary64 :=
  if b.toFloat.isNaN then ofFloat (0 / 0) else b

/-- The pattern of the number that a pattern stands for is the usual one. -/
theorem Binary64.ofFloat_toFloat_eq_usual (b : Binary64) : ofFloat b.toFloat = b.usual := by
  unfold usual
  cases number : b.toFloat.isNaN with
  | true => exact congrArg ofFloat (eq_of_isNaN number)
  | false => exact ofFloat_toFloat number

namespace Scalar

/-- A scalar, with the usual pattern for what is no number. -/
def usual : Scalar → Scalar
  | .float x => .float x.usual
  | s => s

/-- The scalars of each base type that survive being written and read. -/
inductive Portable : BaseType → Scalar → Prop where
  | identifier {name : String} (trimmed : Text.Trimmed name.toList) :
      Portable .identifier (.identifier name)
  | boolean (b : Bool) : Portable .boolean (.boolean b)
  | integer (n : Int64) : Portable .integer (.integer n)
  /-- What stands for an integer that could not be read. -/
  | noInteger {x : Binary64} (notNumber : x.toFloat.isNaN = true) :
      Portable .integer (.float x)
  | float (x : Binary64) : Portable .float (.float x)
  | string (s : String) : Portable .string (.string s)
  | point (x y : Int64) : Portable .point (.point x y)
  | pair {a b : String} (first : Text.IsWord a.toList) (second : Text.IsWord b.toList) :
      Portable .pair (.pair a b)
  | directedPair {a b : String} (first : Text.IsWord a.toList) (second : Text.IsWord b.toList) :
      Portable .directedPair (.directedPair a b)
  | file (contents : String) : Portable .file (.file contents)
  | uri {u : String} (trimmed : Text.Trimmed u.toList) : Portable .uri (.uri u)
  | index (n : Int64) : Portable .intOrIdentifier (.integer n)
  /-- A name that is no numeral of an integer in range. -/
  | name {name : String} (trimmed : Text.Trimmed name.toList)
      (noNumeral : ∀ n : Int64, ¬ Integer.Spells name.toList n.toInt) :
      Portable .intOrIdentifier (.identifier name)

/-! ## Reading texts -/

theorem readCoordinate_text (raw : String) (n : Int64) :
    readCoordinate raw (Integer.text n.toInt) = .ok n := by
  unfold readCoordinate
  rw [Integer.read_eq_ok.2 (Integer.spells_text n.toInt)]

theorem twoWords_of_isWord (t : BaseType) {a b : String} (ha : Text.IsWord a.toList)
    (hb : Text.IsWord b.toList) : twoWords t (a ++ " " ++ b) = .ok (a, b) := by
  unfold twoWords
  rw [Text.words_of_two ha hb]

/-- The words for what is not finite are read back. -/
theorem readPattern?_text {x : Float} (notFinite : x.isFinite = false) :
    readPattern? (Binary64.textWith "INF" "-INF" x) = some (.ofFloat x) := by
  rcases Binary64.eq_of_not_isFinite notFinite with rfl | rfl | rfl <;> decide +kernel

theorem readIntOrIdentifier_of_not_spells {name : String} (trimmed : Text.Trimmed name.toList)
    (noNumeral : ∀ n : Int64, ¬ Integer.Spells name.toList n.toInt) :
    readIntOrIdentifier name = .identifier name := by
  unfold readIntOrIdentifier
  dsimp only
  rw [Text.trim_of_trimmed trimmed]
  cases numeral : Integer.read name with
  | ok n => exact absurd (Integer.read_eq_ok.1 numeral) (noNumeral n)
  | error fault => rfl

/-! ## Reading JSON -/

theorem integerOfNumber_integer (n : Int64) : integerOfNumber (.integer n.toInt) = .integer n := by
  unfold integerOfNumber
  rw [Json.Number.toInt64?, Integer.ofInt?_toInt]

theorem ofJson_numberJson (x : Float) :
    ofJson .float (numberJson x) = .ok (.float (.ofFloat x)) := by
  unfold numberJson
  cases finite : x.isFinite with
  | true => rfl
  | false =>
      have word := readPattern?_text finite
      simp only [Bool.false_eq_true, if_false, ofJson, read, word, Option.elim_some]

/-- A portable scalar is read back from its JSON form, in the usual pattern. -/
theorem ofJson_of_portable {t : BaseType} {s : Scalar} (h : s.Portable t) :
    ofJson t s.toJson = .ok s.usual := by
  cases h with
  | boolean | string | file => rfl
  | float x =>
      rw [toJson, ofJson_numberJson, Binary64.ofFloat_toFloat_eq_usual]
      rfl
  | identifier trimmed => exact congrArg (Except.ok ∘ identifier) (Text.trim_of_trimmed trimmed)
  | uri trimmed => exact congrArg (Except.ok ∘ uri) (Text.trim_of_trimmed trimmed)
  | integer n | index n => exact congrArg Except.ok (integerOfNumber_integer n)
  | @noInteger x notNumber =>
      have usual : (Scalar.float x).usual = Scalar.notNumber := by
        rw [Scalar.usual, Binary64.usual, if_pos notNumber]
        rfl
      rw [usual, toJson, Binary64.eq_of_isNaN notNumber]
      rfl
  | name trimmed noNumeral =>
      exact congrArg Except.ok (readIntOrIdentifier_of_not_spells trimmed noNumeral)
  | pair first second =>
      change (twoWords .pair _ >>= _) = _
      rw [text, twoWords_of_isWord .pair first second]
      rfl
  | directedPair first second =>
      change (twoWords .directedPair _ >>= _) = _
      rw [text, twoWords_of_isWord .directedPair first second]
      rfl
  | point x y =>
      have first := (Integer.spells_text x.toInt).isWord
      have second := (Integer.spells_text y.toInt).isWord
      change (twoWords .point _ >>= _) = _
      rw [text, twoWords_of_isWord .point first second]
      simp only [bind, Except.bind, readCoordinate_text, pure, Except.pure, usual]

end Scalar

end ItemScoring
