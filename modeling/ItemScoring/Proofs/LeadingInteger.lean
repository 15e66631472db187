import ItemScoring.Proofs.Integer
import ItemScoring.Scalar.Cast

/-!
# Integers that texts begin with

An integer is read of a text even if the text goes on behind it. Blanks in front are left out, and a
numeral is taken of the rest, up to where its digits end. Its integer is what is read, if a word
holds it (`leadingInteger?_eq_some_iff`). Nothing is read of a text that begins with no numeral, or
with one of an integer out of range.
-/

set_option autoImplicit false

namespace ItemScoring

namespace Integer

/-- After blanks, a text begins with a numeral of the integer, and no further digit follows it. -/
inductive BeginsWith : List Char → Int → Prop where
  | numeral {blanks word rest : List Char} {n : Int}
      (blank : ∀ c ∈ blanks, Text.isBlank c = true) (spells : Spells word n)
      (ends : ∀ c ∈ rest.head?, c.isDigit = false) : BeginsWith (blanks ++ (word ++ rest)) n

/-- There need be no blanks. -/
theorem BeginsWith.of_spells {word rest : List Char} {n : Int} (spells : Spells word n)
    (ends : ∀ c ∈ rest.head?, c.isDigit = false) : BeginsWith (word ++ rest) n := by
  have whole : BeginsWith ([] ++ (word ++ rest)) n :=
    .numeral (List.forall_mem_nil _) spells ends
  exact whole

/-- The text of an integer begins with that integer. -/
theorem beginsWith_text (n : Int) : BeginsWith (text n).toList n := by
  have whole : BeginsWith ((text n).toList ++ []) n := .of_spells (spells_text n) (by simp)
  rwa [List.append_nil] at whole

/-! ## Digits -/

/-- Digits are read to the integer that they spell with their sign, if a word holds it. -/
theorem leadingDigits?_append (negative : Bool) {ds rest : List Char} (h : IsDigits ds)
    (ends : ∀ c ∈ rest.head?, c.isDigit = false) :
    leadingDigits? negative (ds ++ rest) =
      ofInt? (if negative then -(digitsValue 0 ds : Int) else digitsValue 0 ds) := by
  obtain ⟨d, others, rfl⟩ := List.exists_cons_of_ne_nil h.nonempty
  rw [leadingDigits?, (digits_append h.digits ends).1]

/-- Where an integer is read, there are digits at the front. -/
theorem exists_digits_of_leadingDigits? {negative : Bool} {cs : List Char} {n : Int64}
    (read : leadingDigits? negative cs = some n) :
    ∃ ds rest, cs = ds ++ rest ∧ IsDigits ds ∧ ∀ c ∈ rest.head?, c.isDigit = false := by
  refine ⟨cs.takeWhile Char.isDigit, cs.dropWhile Char.isDigit,
    List.takeWhile_append_dropWhile.symm, ⟨?_, ?_⟩, ?_⟩
  · intro missing
    rw [leadingDigits?, missing] at read
    cases read
  · exact List.all_eq_true.1 List.all_takeWhile
  · exact Text.eq_false_of_mem_head?_dropWhile Char.isDigit cs

/-! ## Signs -/

/-- A digit in front is no sign. -/
theorem leadingChars?_of_isDigit {c : Char} (digit : c.isDigit = true) (cs : List Char) :
    leadingChars? (c :: cs) = leadingDigits? false (c :: cs) := by
  unfold leadingChars?
  split
  next minus =>
    obtain rfl := (List.cons.inj minus).1
    cases digit
  next plus =>
    obtain rfl := (List.cons.inj plus).1
    cases digit
  next => rfl

/-- A numeral in front of a text is read to its integer, if a word holds it. -/
theorem leadingChars?_append {word rest : List Char} {n : Int} (spells : Spells word n)
    (ends : ∀ c ∈ rest.head?, c.isDigit = false) :
    leadingChars? (word ++ rest) = ofInt? n := by
  cases spells with
  | plain h =>
      obtain ⟨d, others, rfl⟩ := List.exists_cons_of_ne_nil h.nonempty
      have digit : d.isDigit = true := h.digits d List.mem_cons_self
      rw [List.cons_append, leadingChars?_of_isDigit digit]
      exact leadingDigits?_append false h ends
  | plus h => exact leadingDigits?_append false h ends
  | minus h => exact leadingDigits?_append true h ends

/-- Where an integer is read, there is a numeral in front. -/
theorem exists_numeral_of_leadingChars? {cs : List Char} {n : Int64}
    (read : leadingChars? cs = some n) :
    ∃ word rest m, cs = word ++ rest ∧ Spells word m ∧ ∀ c ∈ rest.head?, c.isDigit = false := by
  unfold leadingChars? at read
  split at read
  · obtain ⟨ds, rest, rfl, h, ends⟩ := exists_digits_of_leadingDigits? read
    exact ⟨_, rest, _, rfl, .minus h, ends⟩
  · obtain ⟨ds, rest, rfl, h, ends⟩ := exists_digits_of_leadingDigits? read
    exact ⟨_, rest, _, rfl, .plus h, ends⟩
  · obtain ⟨ds, rest, rfl, h, ends⟩ := exists_digits_of_leadingDigits? read
    exact ⟨_, rest, _, rfl, .plain h, ends⟩

end Integer

namespace Scalar

open Integer (BeginsWith InRange ofInt?)

variable {raw : String}

/-- The integer that a text begins with is read, if a word holds it. -/
theorem leadingInteger?_of_beginsWith {n : Int} (h : BeginsWith raw.toList n) :
    leadingInteger? raw = ofInt? n := by
  generalize text : raw.toList = cs at h
  obtain @⟨blanks, word, rest, n, blank, spells, ends⟩ := h
  -- There is no blank in a numeral, so the blanks end where it begins.
  obtain ⟨c, others, rfl⟩ := List.exists_cons_of_ne_nil spells.isWord.nonempty
  have there : Text.isBlank c = false := spells.isWord.unbroken c List.mem_cons_self
  rw [leadingInteger?, text, List.dropWhile_append_of_pos blank, List.cons_append,
    List.dropWhile_cons_of_neg (by simp [there])]
  exact Integer.leadingChars?_append spells ends

/-- Where an integer is read, the text begins with one. -/
theorem exists_beginsWith_of_leadingInteger? {n : Int64} (read : leadingInteger? raw = some n) :
    ∃ m, BeginsWith raw.toList m := by
  obtain ⟨word, rest, m, same, spells, ends⟩ := Integer.exists_numeral_of_leadingChars? read
  have blank : ∀ c ∈ raw.toList.takeWhile Text.isBlank, Text.isBlank c = true :=
    List.all_eq_true.1 List.all_takeWhile
  have whole : raw.toList = raw.toList.takeWhile Text.isBlank ++ (word ++ rest) := by
    rw [← same, List.takeWhile_append_dropWhile]
  exact ⟨m, whole ▸ .numeral blank spells ends⟩

/-- A text is read to the word that holds the integer that it begins with. -/
theorem leadingInteger?_eq_some_iff {n : Int64} :
    leadingInteger? raw = some n ↔ BeginsWith raw.toList n.toInt := by
  constructor
  · intro read
    obtain ⟨m, begins⟩ := exists_beginsWith_of_leadingInteger? read
    rw [leadingInteger?_of_beginsWith begins, Integer.ofInt?_eq_some_iff] at read
    exact read ▸ begins
  · intro begins
    rw [leadingInteger?_of_beginsWith begins, Integer.ofInt?_toInt]

/-- Nothing is read of a text that begins with no integer that a word holds. -/
theorem leadingInteger?_eq_none_iff :
    leadingInteger? raw = none ↔ ¬ ∃ n, BeginsWith raw.toList n ∧ InRange n := by
  constructor
  · rintro unread ⟨n, begins, inside⟩
    rw [leadingInteger?_of_beginsWith begins, Integer.ofInt?_eq_none_iff] at unread
    exact unread inside
  · intro outside
    refine Option.eq_none_iff_forall_ne_some.2 fun n read => outside ?_
    exact ⟨n.toInt, leadingInteger?_eq_some_iff.1 read, Integer.inRange_toInt n⟩

/-- A text is read to an integer exactly when, after blanks, it begins with a numeral of that
integer which no digit follows. Nothing is read of any other text, and the text of an integer reads
back. -/
theorem leadingInteger_exact :
    (∀ (raw : String) (n : Int64),
      leadingInteger? raw = some n ↔ BeginsWith raw.toList n.toInt) ∧
    (∀ raw : String,
      leadingInteger? raw = none ↔ ¬ ∃ n, BeginsWith raw.toList n ∧ InRange n) ∧
    ∀ n : Int64, leadingInteger? (Integer.text n.toInt) = some n :=
  ⟨fun _ _ => leadingInteger?_eq_some_iff, fun _ => leadingInteger?_eq_none_iff,
    fun n => leadingInteger?_eq_some_iff.2 (Integer.beginsWith_text n.toInt)⟩

example : leadingInteger? " -0009223372036854775808th" = some Int64.minValue := by decide +kernel

example : leadingInteger? "+9223372036854775808" = none := by decide +kernel

end Scalar

end ItemScoring
