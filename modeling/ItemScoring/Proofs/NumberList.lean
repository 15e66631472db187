import Mathlib.Data.List.Forall2
import ItemScoring.Attribute
import ItemScoring.Proofs.Numeral

/-!
# Attributes as numbers and as lists of numbers

A text denotes a number when it is a numeral, or when it refers to a variable that holds a number.
An attribute is read as the number that its text denotes, and as the list of the numbers that its
words denote (`float_eq_ok`, `floatList_eq_ok`). An attribute that is read as a number is also read
as the list of that number, unless a blank is left in it after trimming: numerals never have one,
but the braces of a reference may have blanks between them, and these cut it into words.
-/

set_option autoImplicit false

namespace ItemScoring.Attribute

open Binary64 (Unbroken)

/-! ## What texts denote -/

/-- A text is a numeral of the number, or it refers to a variable that holds the number. -/
inductive Denotes (s : Session) (raw : String) (x : Float) : Prop where
  | reference {identifier : String} {scalar : Scalar} (refers : reference? raw = some identifier)
      (holds : ((s.find? identifier).bind fun v => v.value.single?) = some scalar)
      (number : scalar.number? = some x)
  | numeral (literal : reference? raw = none) (read : Scalar.readFloat? raw = some x)

variable {e : Expression} {s : Session} {name : String} {x : Float}

theorem referenced_eq_ok {identifier : String} {scalar : Scalar} :
    referenced e s name identifier = .ok scalar ↔
      ((s.find? identifier).bind fun v => v.value.single?) = some scalar := by
  unfold referenced invalid
  cases (s.find? identifier).bind fun v => v.value.single? <;> simp

/-- A text refers to what it denotes, or else it is read. -/
theorem denotes_iff {raw : String} : Denotes s raw x ↔
    (∃ identifier scalar, reference? raw = some identifier ∧
      ((s.find? identifier).bind fun v => v.value.single?) = some scalar ∧
      scalar.number? = some x) ∨ reference? raw = none ∧ Scalar.readFloat? raw = some x := by
  constructor
  · rintro (⟨refers, holds, number⟩ | ⟨literal, read⟩)
    · exact .inl ⟨_, _, refers, holds, number⟩
    · exact .inr ⟨literal, read⟩
  · rintro (⟨_, _, refers, holds, number⟩ | ⟨literal, read⟩)
    · exact .reference refers holds number
    · exact .numeral literal read

/-- The number that a scalar is seen as, or else a fault. -/
theorem number_eq_ok {α : Type} {scalar : Scalar} {f : Float → α} {fault : Error} {a : α} :
    (match scalar.number? with
      | some y => .ok (f y)
      | none => .error fault) = (.ok a : Result α) ↔ ∃ y, scalar.number? = some y ∧ f y = a := by
  cases scalar.number? <;> simp

/-- A word of a list is read as the number that it denotes. -/
theorem listItem_eq_ok {word : String} : listItem e s name word = .ok x ↔ Denotes s word x := by
  rw [denotes_iff]
  unfold listItem
  cases refers : reference? word with
  | some identifier =>
      refine Result.bind_eq_ok.trans ?_
      simp only [referenced_eq_ok]
      constructor
      · rintro ⟨scalar, holds, read⟩
        obtain ⟨y, number, rfl⟩ := number_eq_ok.1 read
        exact .inl ⟨_, _, rfl, holds, number⟩
      · rintro (⟨_, scalar, ⟨⟩, holds, number⟩ | ⟨⟨⟩, -⟩)
        exact ⟨scalar, holds, number_eq_ok.2 ⟨x, number, rfl⟩⟩
  | none =>
      cases read : Scalar.readFloat? word <;> simp [invalid]

/-- An attribute is read as the number that its text denotes. -/
theorem float_eq_ok : float e s name = .ok (some x) ↔
    ∃ raw, e.attribute? name = some raw ∧ Denotes s raw x := by
  unfold float
  cases e.attribute? name with
  | none => simp
  | some raw =>
      simp only [Option.some.injEq, exists_eq_left', denotes_iff]
      cases refers : reference? raw with
      | some identifier =>
          refine Result.bind_eq_ok.trans ?_
          simp only [referenced_eq_ok]
          constructor
          · rintro ⟨scalar, holds, read⟩
            obtain ⟨y, number, ⟨⟩⟩ := number_eq_ok.1 read
            exact .inl ⟨_, _, rfl, holds, number⟩
          · rintro (⟨_, scalar, ⟨⟩, holds, number⟩ | ⟨⟨⟩, -⟩)
            exact ⟨scalar, holds, number_eq_ok.2 ⟨x, number, rfl⟩⟩
      | none => cases read : Scalar.readFloat? raw <;> simp [invalid]

theorem listItems_eq_ok {words : List String} {xs : List Float} :
    listItems e s name words = .ok xs ↔ List.Forall₂ (Denotes s) words xs := by
  induction words generalizing xs with
  | nil =>
      rw [listItems, List.forall₂_nil_left_iff]
      simp [eq_comm]
  | cons word rest ih =>
      rw [listItems, List.forall₂_cons_left_iff]
      simp only [Result.bind_eq_ok, listItem_eq_ok, ih]
      constructor
      · rintro ⟨x, first, ys, others, ⟨⟩⟩
        exact ⟨x, ys, first, others, rfl⟩
      · rintro ⟨x, ys, first, others, rfl⟩
        exact ⟨x, first, ys, others, rfl⟩

/-- An attribute is read as the list of the numbers that its words denote. -/
theorem floatList_eq_ok {xs : List Float} : floatList e s name = .ok (some xs) ↔
    ∃ raw, e.attribute? name = some raw ∧ List.Forall₂ (Denotes s) (Text.words raw) xs := by
  unfold floatList
  cases e.attribute? name with
  | none => simp
  | some raw =>
      refine Result.map_eq_ok.trans ?_
      simp only [listItems_eq_ok, Option.some.injEq, exists_eq_right, exists_eq_left']

/-! ## Blanks -/

theorem trimChars_trimChars (cs : List Char) :
    Text.trimChars (Text.trimChars cs) = Text.trimChars cs :=
  Text.trimChars_of_trimmed (Text.trimmed_trimChars cs)

/-- Blanks around a text do not change what it denotes. -/
theorem denotes_trim {raw : String} : Denotes s (Text.trim raw) x ↔ Denotes s raw x := by
  have refers : reference? (Text.trim raw) = reference? raw := by
    unfold reference? referenceChars? Text.trim
    rw [String.toList_ofList, trimChars_trimChars]
  have reads : Scalar.readFloat? (Text.trim raw) = Scalar.readFloat? raw := by
    unfold Scalar.readFloat? Text.trim
    rw [String.toList_ofList, trimChars_trimChars]
  rw [denotes_iff, denotes_iff, refers, reads]

/-- A text that denotes a number is not blank. -/
theorem Denotes.nonempty {raw : String} (h : Denotes s raw x) : Text.trimChars raw.toList ≠ [] := by
  intro blank
  cases h with
  | reference refers =>
      rw [reference?, referenceChars?, blank] at refers
      cases refers
  | numeral literal read =>
      rw [Scalar.readFloat?, blank] at read
      cases read

/-- A numeral has no blank in it. -/
theorem unbroken_of_numeral {raw : String} (read : Scalar.readFloat? raw = some x) :
    Unbroken (Text.trimChars raw.toList) := Binary64.unbroken_of_readChars? read

/-- A text without a blank in it is its only word. -/
theorem words_of_unbroken {raw : String} (there : Text.trimChars raw.toList ≠ [])
    (unbroken : Unbroken (Text.trimChars raw.toList)) : Text.words raw = [Text.trim raw] := by
  rw [Text.words, Text.wordsChars_of_isWord_trimChars ⟨there, unbroken⟩]
  rfl

/-- An attribute that is read as a number is read as the list of that number exactly when no blank
is left in it after trimming. If it is no reference, none is left. -/
theorem floatList_of_float (read : float e s name = .ok (some x)) :
    ∃ raw, e.attribute? name = some raw ∧
      (floatList e s name = .ok (some [x]) ↔
        ∀ c ∈ (Text.trim raw).toList, Text.isBlank c = false) ∧
      (reference? raw = none → floatList e s name = .ok (some [x])) := by
  obtain ⟨raw, there, denotes⟩ := float_eq_ok.1 read
  have whole (unbroken : Unbroken (Text.trimChars raw.toList)) :
      floatList e s name = .ok (some [x]) := by
    refine floatList_eq_ok.2 ⟨raw, there, ?_⟩
    rw [words_of_unbroken denotes.nonempty unbroken]
    exact .cons (denotes_trim.2 denotes) .nil
  refine ⟨raw, there, ⟨fun listed => ?_, fun unbroken => ?_⟩, fun literal => ?_⟩
  · obtain ⟨_, there', words⟩ := floatList_eq_ok.1 listed
    obtain rfl := Option.some.inj (there.symm.trans there')
    have one : (Text.wordsChars raw.toList).length = 1 := by
      have same := words.length_eq
      rwa [Text.words, List.length_map] at same
    rw [Text.trim, String.toList_ofList]
    intro c mem
    by_contra blank
    have two := Text.two_le_length_wordsChars mem (by simpa using blank)
    omega
  · rw [Text.trim, String.toList_ofList] at unbroken
    exact whole unbroken
  · cases denotes with
    | reference refers =>
        rw [literal] at refers
        cases refers
    | numeral _ read => exact whole (unbroken_of_numeral read)

/-! ## A reference with blanks -/

/-- A comparison with a tolerance that is the value of a variable. -/
def toleranceNode (raw : String) : Expression := .leaf "equal" [("tolerance", raw)]

/-- A variable that holds twelve. -/
def twelve : Session :=
  Session.empty.declare
    ⟨"MAX", .single, some .integer, .single (.integer 12), .null, .null, none, none, none⟩

theorem denotes_twelve {raw : String} (refers : reference? raw = some "MAX") :
    Denotes twelve raw 12 := .reference refers rfl rfl

/-- Blanks around the braces make no difference. -/
theorem floatList_blanks_around :
    float (toleranceNode " \x7bMAX\x7d\n") twelve "tolerance" = .ok (some 12) ∧
      floatList (toleranceNode " \x7bMAX\x7d\n") twelve "tolerance" = .ok (some [12]) := by
  have read : float (toleranceNode " \x7bMAX\x7d\n") twelve "tolerance" = .ok (some 12) :=
    float_eq_ok.2 ⟨_, rfl, denotes_twelve (by decide +kernel)⟩
  obtain ⟨raw, there, listed, -⟩ := floatList_of_float read
  obtain rfl : " \x7bMAX\x7d\n" = raw := Option.some.inj there
  have trimmed : (Text.trim " \x7bMAX\x7d\n").toList = "\x7bMAX\x7d".toList := by
    decide +kernel
  have unbroken : "\x7bMAX\x7d".toList.all (fun c => !Text.isBlank c) = true := by decide +kernel
  refine ⟨read, listed.2 fun c mem => ?_⟩
  rw [trimmed] at mem
  simpa using List.all_eq_true.1 unbroken c mem

/-- Blanks between the braces make a list of three words, of which the first is refused. -/
theorem floatList_blanks_between :
    float (toleranceNode "\x7b MAX \x7d") twelve "tolerance" = .ok (some 12) ∧
      floatList (toleranceNode "\x7b MAX \x7d") twelve "tolerance" =
        .error (.invalidAttribute "equal" "tolerance" (.notNumber "\x7b")) := by
  refine ⟨float_eq_ok.2 ⟨_, rfl, denotes_twelve (by decide +kernel)⟩, ?_⟩
  have there : (toleranceNode "\x7b MAX \x7d").attribute? "tolerance" =
      some "\x7b MAX \x7d" := rfl
  have words : Text.words "\x7b MAX \x7d" = ["\x7b", "MAX", "\x7d"] := by decide +kernel
  have literal : reference? "\x7b" = none := by decide +kernel
  have read : Scalar.readFloat? "\x7b" = none := by decide +kernel
  rw [floatList, there]
  dsimp only
  rw [words, listItems, listItem, literal]
  dsimp only
  rw [read]
  rfl

end ItemScoring.Attribute
