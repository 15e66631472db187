import Mathlib.Data.List.Basic
import ItemScoring.Json.Reader
import ItemScoring.Proofs.Numeral

/-!
# Number literals

A JSON number is written as a literal: a sign, whole digits without a superfluous zero in front, a
fraction and an exponent. Only literals are read as numbers (`ofLiteral?_eq_some_iff`), and a text
that is a literal is read as a JSON value that is its number (`parse?_of_literal`). A literal
without fraction and exponent stands for an integer if that fits 64 bits; every other literal stands
for the floating-point number that it is decoded to, if there is one.
-/

set_option autoImplicit false

namespace ItemScoring.Json

open Binary64 (Scales exponentPart?_eq_some_iff pointed withSign)
open Integer (IsDigits digitsValue digits_append)

/-- The parts of a number literal. -/
structure Literal where
  /-- Whether there is a minus sign. -/
  negative : Bool
  /-- The digits in front of the point. -/
  whole : List Char
  /-- The digits after the point; there is no point if there are none. -/
  fraction : List Char
  /-- The exponent with its mark and its sign. -/
  exponent : List Char
  /-- The power of ten that the exponent stands for. -/
  scale : Int
  digits : IsDigits whole
  shortest : whole.head? = some '0' → whole.length ≤ 1
  others : ∀ c ∈ fraction, c.isDigit = true
  scales : Scales exponent scale

namespace Literal

variable (l : Literal)

/-- The literal without its sign. -/
def unsigned : List Char := l.whole ++ (pointed l.fraction ++ l.exponent)

/-- The text of the literal. -/
def chars : List Char := if l.negative then '-' :: l.unsigned else l.unsigned

/-- The integer that the sign and the digits in front of the point spell. -/
def wholeNumber : Int := withSign l.negative (digitsValue 0 l.whole)

/-- There is neither fraction nor exponent. -/
def IsPlain : Prop := l.fraction = [] ∧ l.exponent = []

instance : Decidable l.IsPlain := inferInstanceAs (Decidable (_ ∧ _))

/-- A word of 64 bits with or without a sign holds the whole digits. There is no integer `-0`. -/
def FitsWord : Prop :=
  if l.negative then digitsValue 0 l.whole ≠ 0 ∧ digitsValue 0 l.whole ≤ Integer.bound
  else digitsValue 0 l.whole < 2 * Integer.bound

instance : Decidable l.FitsWord := by
  unfold FitsWord
  infer_instance

/-- The floating-point number that comes closest to all digits and the exponent. -/
def nearest : Float :=
  Binary64.signed l.negative
    (Binary64.ofDecimal (digitsValue 0 (l.whole ++ l.fraction)) (l.scale - l.fraction.length))

/-- The number that the literal stands for; none if it is decoded to none. -/
def number? (decoder : Decoder) : Option Number :=
  if l.IsPlain ∧ l.FitsWord then some (.integer l.wholeNumber)
  else (decoder.decode? l.negative l.unsigned).map .float

end Literal

/-! ## Reading literals -/

/-- What may follow the whole digits is a fraction and an exponent. -/
theorem isFractionTail_iff {cs : List Char} : isFractionTail cs = true ↔
    ∃ fraction exponent scale, (∀ c ∈ fraction, c.isDigit = true) ∧ Scales exponent scale ∧
      cs = pointed fraction ++ exponent := by
  have exponents {ds : List Char} : (ds.isEmpty || (Binary64.exponentPart? ds).isSome) = true ↔
      ∃ e, Scales ds e := by
    rw [Bool.or_eq_true, List.isEmpty_iff, Option.isSome_iff_exists]
    constructor
    · rintro (rfl | ⟨e, read⟩)
      · exact ⟨0, .none⟩
      · exact ⟨e, exponentPart?_eq_some_iff.1 read⟩
    · rintro ⟨e, scales⟩
      exact .inr ⟨e, exponentPart?_eq_some_iff.2 scales⟩
  constructor
  · intro h
    unfold isFractionTail at h
    dsimp only at h
    split at h
    next rest =>
      obtain ⟨some, power⟩ := Bool.and_eq_true_iff.1 h
      obtain ⟨e, scales⟩ := exponents.1 power
      refine ⟨rest.takeWhile Char.isDigit, _, e, List.all_eq_true.1 List.all_takeWhile, scales, ?_⟩
      rw [pointed, if_neg (by simpa using some), List.cons_append, List.takeWhile_append_dropWhile]
    next =>
      obtain ⟨e, scales⟩ := exponents.1 h
      exact ⟨[], cs, e, List.forall_mem_nil _, scales, rfl⟩
  · rintro ⟨fraction, exponent, scale, digits, scales, rfl⟩
    unfold isFractionTail
    by_cases none : fraction = []
    · subst none
      have unpointed : pointed [] ++ exponent = exponent := rfl
      rw [unpointed]
      split
      · exact absurd rfl (scales.head _ rfl).2
      · exact exponents.2 ⟨scale, scales⟩
    · have dot : pointed fraction ++ exponent = '.' :: (fraction ++ exponent) := by
        simp [pointed, none]
      obtain ⟨taken, dropped⟩ := digits_append digits fun c hc => (scales.head c hc).1
      rw [dot]
      change (!((fraction ++ exponent).takeWhile Char.isDigit).isEmpty && (_ || _)) = true
      rw [taken, dropped, exponents.2 ⟨scale, scales⟩]
      simp [none]

section Unsigned

variable {decoder : Decoder} (l : Literal)

theorem Literal.takeWhile_unsigned : l.unsigned.takeWhile Char.isDigit = l.whole ∧
    l.unsigned.dropWhile Char.isDigit = pointed l.fraction ++ l.exponent := by
  refine digits_append l.digits.digits ?_
  unfold pointed
  split
  · exact fun c hc => (l.scales.head c hc).1
  · rintro c ⟨⟩
    rfl

theorem ofUnsigned?_unsigned :
    Number.ofUnsigned? decoder l.negative l.unsigned = l.number? decoder := by
  obtain ⟨whole, tail⟩ := l.takeWhile_unsigned
  have tailed : isFractionTail (pointed l.fraction ++ l.exponent) = true :=
    isFractionTail_iff.2 ⟨_, _, _, l.others, l.scales, rfl⟩
  have short := l.shortest
  have plain : (pointed l.fraction ++ l.exponent).isEmpty = true ↔ l.IsPlain := by
    unfold pointed Literal.IsPlain
    split <;> simp_all
  unfold Number.ofUnsigned?
  dsimp only
  rw [whole, tail, if_neg (by simpa [l.digits.nonempty, tailed] using short)]
  unfold Literal.number?
  by_cases integral : l.IsPlain ∧ l.FitsWord
  · rw [if_pos ⟨plain.2 integral.1, integral.2⟩, if_pos integral]
    rfl
  · rw [if_neg fun h => integral ⟨plain.1 h.1, h.2⟩, if_neg integral]

end Unsigned

/-- What is read as an unsigned number is a literal. -/
theorem exists_of_ofUnsigned? {decoder : Decoder} {negative : Bool} {cs : List Char} {n : Number}
    (h : Number.ofUnsigned? decoder negative cs = some n) :
    ∃ l : Literal, l.negative = negative ∧ l.unsigned = cs := by
  unfold Number.ofUnsigned? at h
  dsimp only at h
  split at h
  · cases h
  next accepted =>
    simp only [Bool.or_eq_true, not_or, Bool.not_eq_true', Bool.not_eq_false, Bool.and_eq_true,
      decide_eq_true_eq, not_and, List.isEmpty_iff] at accepted
    obtain ⟨⟨nonempty, short⟩, tail⟩ := accepted
    obtain ⟨fraction, exponent, scale, others, scales, parts⟩ := isFractionTail_iff.1 tail
    refine ⟨⟨negative, cs.takeWhile Char.isDigit, fraction, exponent, scale,
      ⟨nonempty, List.all_eq_true.1 List.all_takeWhile⟩, fun zero => Nat.le_of_not_lt (short zero),
      others, scales⟩, rfl, ?_⟩
    rw [Literal.unsigned, ← parts, List.takeWhile_append_dropWhile]

theorem Literal.exists_digit (l : Literal) :
    ∃ c cs, l.unsigned = c :: cs ∧ c.isDigit = true := by
  cases first : l.whole with
  | nil => exact absurd first l.digits.nonempty
  | cons c cs =>
      refine ⟨c, cs ++ (pointed l.fraction ++ l.exponent), ?_, ?_⟩
      · rw [Literal.unsigned, first, List.cons_append]
      · exact l.digits.digits c (first ▸ List.mem_cons_self)

/-- A literal is read as the number that it stands for. -/
theorem ofLiteral?_chars {decoder : Decoder} (l : Literal) :
    Number.ofLiteral? decoder l.chars = l.number? decoder := by
  have read : Number.ofUnsigned? decoder l.negative l.unsigned = _ := ofUnsigned?_unsigned l
  unfold Literal.chars
  cases sign : l.negative with
  | true =>
      rw [sign] at read
      exact read
  | false =>
      rw [sign] at read
      obtain ⟨c, cs, first, digit⟩ := l.exists_digit
      rw [if_neg Bool.false_ne_true]
      unfold Number.ofLiteral?
      split
      next minus =>
        obtain rfl : c = '-' := (List.cons.inj (first.symm.trans minus)).1
        cases digit
      next => exact read

/-- Nothing but literals is read as a number. -/
theorem ofLiteral?_eq_some_iff {decoder : Decoder} {cs : List Char} {n : Number} :
    Number.ofLiteral? decoder cs = some n ↔
      ∃ l : Literal, l.chars = cs ∧ l.number? decoder = some n := by
  constructor
  · intro h
    have literal {negative : Bool} {ds : List Char}
        (read : Number.ofUnsigned? decoder negative ds = some n) :
        ∃ l : Literal, l.chars = (if negative then '-' :: ds else ds) ∧
          l.number? decoder = some n := by
      obtain ⟨l, rfl, rfl⟩ := exists_of_ofUnsigned? read
      exact ⟨l, rfl, (ofUnsigned?_unsigned l).symm.trans read⟩
    unfold Number.ofLiteral? at h
    split at h
    · exact literal h
    · exact literal h
  · rintro ⟨l, rfl, read⟩
    exact (ofLiteral?_chars l).trans read

/-! ## Literals as texts -/

theorem isNumberChar_of_isDigit {c : Char} (h : c.isDigit = true) : isNumberChar c = true := by
  simp [isNumberChar, h]

theorem isNumberChar_of_scales {cs : List Char} {e : Int} (h : Scales cs e) :
    ∀ c ∈ cs, isNumberChar c = true := by
  cases h with
  | none => exact List.forall_mem_nil _
  | some marked spelled =>
      refine List.forall_mem_cons.2 ⟨by rcases marked with rfl | rfl <;> decide, ?_⟩
      cases spelled with
      | plain h => exact fun c mem => isNumberChar_of_isDigit (h.digits c mem)
      | plus h | minus h =>
          exact List.forall_mem_cons.2
            ⟨by decide, fun c mem => isNumberChar_of_isDigit (h.digits c mem)⟩

/-- A literal is made of the characters of numbers, and of one at least. -/
theorem Literal.chars_spec (l : Literal) :
    (∀ c ∈ l.chars, isNumberChar c = true) ∧ l.chars ≠ [] := by
  have unsigned : ∀ c ∈ l.unsigned, isNumberChar c = true := by
    unfold Literal.unsigned pointed
    refine List.forall_mem_append.2 ⟨fun c mem => isNumberChar_of_isDigit (l.digits.digits c mem),
      List.forall_mem_append.2 ⟨?_, isNumberChar_of_scales l.scales⟩⟩
    split
    · exact List.forall_mem_nil _
    · exact List.forall_mem_cons.2
        ⟨by decide, fun c mem => isNumberChar_of_isDigit (l.others c mem)⟩
  obtain ⟨c, cs, first, -⟩ := l.exists_digit
  unfold Literal.chars
  split
  · exact ⟨List.forall_mem_cons.2 ⟨by decide, unsigned⟩, List.cons_ne_nil _ _⟩
  · exact ⟨unsigned, first ▸ List.cons_ne_nil _ _⟩

/-- A text that is a literal and nothing else is read as a JSON value that is its number. -/
theorem parse?_of_literal {decoder : Decoder} {t : String} {l : Literal}
    (text : l.chars = t.toList) : parse? decoder t = (l.number? decoder).map .number := by
  have number : Number.ofLiteral? decoder l.chars = _ := ofLiteral?_chars l
  obtain ⟨numeric, nonempty⟩ := l.chars_spec
  unfold parse?
  dsimp only
  rw [← text]
  generalize l.chars = cs at *
  obtain ⟨c, ds, rfl⟩ := List.exists_cons_of_ne_nil nonempty
  have first := numeric c List.mem_cons_self
  have unspaced : skipSpace (c :: ds) = c :: ds := by
    refine List.dropWhile_cons_of_neg fun space => ?_
    simp only [isSpace, Bool.or_eq_true, decide_eq_true_eq] at space
    rcases space with ((rfl | rfl) | rfl) | rfl <;> cases first
  have taken : (c :: ds).takeWhile isNumberChar = c :: ds := List.takeWhile_eq_self_iff.2 numeric
  have dropped : (c :: ds).dropWhile isNumberChar = [] := List.dropWhile_eq_nil_iff.2 numeric
  have value : readValue? decoder (2 * (c :: ds).length + 2) (c :: ds) =
      (l.number? decoder).map fun n => (.number n, []) := by
    unfold readValue?
    rw [unspaced]
    -- Other values begin with other characters.
    split
    case h_7 => rw [taken, dropped, number]
    all_goals
      next other =>
        obtain ⟨rfl, -⟩ := List.cons.inj other
        cases first
  rw [value]
  cases l.number? decoder with
  | none => rfl
  | some n => rfl

end ItemScoring.Json
