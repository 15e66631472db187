import Mathlib
import ItemScoring.Proofs.Json.Decoder
import ItemScoring.Proofs.LeadingInteger

/-!
# Integers from numerals

A numeral may be given as a JSON number or as a text, and either way an integer is made of it. As a
text it stands for the integer in front of the point or of the exponent. As a number it is taken
itself if it has neither; else it is decoded into a floating-point number, of which the fraction is
dropped. With every lawful decoder, both ways lead to one integer for a numeral of at most fifteen
digits without an exponent (`Json.Literal.wholePart_of_rounds`), but an exponent counts in numbers
only, and with more digits the number may be rounded to the next integer.
-/

set_option autoImplicit false

namespace ItemScoring

open Binary64 (Rounds value wholePart withSign)
open Integer (digitsValue)

/-! ## Few digits -/

/-- There is a power of two from a power of ten up to its double. -/
theorem Integer.exists_two_pow {n : Nat} (few : n ≤ 15) :
    ∃ j, j ≤ 50 ∧ 10 ^ n ≤ 2 ^ j ∧ 2 ^ j ≤ 2 * 10 ^ n := by
  have small : 10 ^ n < 2 ^ 50 :=
    (Nat.pow_le_pow_right (by decide) few).trans_lt (by decide : 10 ^ 15 < 2 ^ 50)
  refine ⟨(10 ^ n).log2 + 1, (Nat.log2_lt (by positivity)).2 small, Nat.lt_log2_self.le, ?_⟩
  rw [pow_succ']
  exact Nat.mul_le_mul_left _ (Nat.log2_self_le (by positivity))

namespace Json.Literal

variable (l : Literal)

/-- Of the integers in range, only `-0` is not read as an integer. -/
theorem wholeNumber_eq_zero (inside : Integer.InRange l.wholeNumber) (unfit : ¬ l.FitsWord) :
    l.wholeNumber = 0 := by
  unfold FitsWord at unfit
  unfold wholeNumber withSign Integer.InRange Integer.least Integer.greatest at *
  cases sign : l.negative with
  | false =>
      rw [sign, if_neg Bool.false_ne_true] at unfit inside
      omega
  | true =>
      rw [sign, if_pos rfl] at unfit inside
      rw [if_pos rfl]
      omega

/-- With few digits there are floating-point numbers on both sides of the magnitude that have the
same whole part. -/
theorem exists_bounds (few : l.HasFewDigits) :
    ∃ y z : Float, y.isFinite = true ∧ z.isFinite = true ∧ value y = digitsValue 0 l.whole ∧
      l.magnitude ≤ value z ∧ value z < digitsValue 0 l.whole + 1 := by
  have digits : digitsValue 0 l.whole + 1 ≤ 10 ^ l.whole.length := l.digitsValue_whole_lt
  have high := (l.magnitude_bounds few.1).2
  have few := few.2
  rw [List.length_append] at few
  generalize digitsValue 0 l.whole = w at *
  generalize l.fraction.length = f at *
  obtain ⟨j, short, above, below⟩ := Integer.exists_two_pow (n := f) (by omega)
  have product : (w + 1) * 2 ^ j ≤ 2 * Binary64.leastNormal := by
    calc (w + 1) * 2 ^ j ≤ 10 ^ l.whole.length * (2 * 10 ^ f) := Nat.mul_le_mul digits below
      _ = 2 * 10 ^ (l.whole.length + f) := by ring
      _ ≤ 2 * 10 ^ 15 := Nat.mul_le_mul_left _ (Nat.pow_le_pow_right (by decide) few)
      _ ≤ 2 * Binary64.leastNormal := by decide
  have factor : w + 1 ≤ (w + 1) * 2 ^ j := Nat.le_mul_of_pos_right _ (Nat.two_pow_pos j)
  obtain ⟨y, finite, exact⟩ := Binary64.exists_value (n := w) (k := 0) (by omega) (by decide)
    (by decide)
  obtain ⟨z, finite', exact'⟩ := Binary64.exists_value (n := ((w + 1) * 2 ^ j : Nat) - 1)
    (k := -j) (by omega) (by omega) (by omega)
  have power : (0 : ℚ) < 2 ^ j := by positivity
  have nearby : value z = w + 1 - 1 / 2 ^ j := by
    rw [exact', zpow_neg, zpow_natCast, ← div_eq_mul_inv]
    push_cast
    rw [sub_div, mul_div_cancel_right₀ _ power.ne']
  have places : (1 : ℚ) / 2 ^ j ≤ 1 / 10 ^ f :=
    one_div_le_one_div_of_le (by positivity) (by exact_mod_cast above)
  have unit : (0 : ℚ) < 1 / 2 ^ j := by positivity
  refine ⟨y, z, finite, finite', by rw [exact]; simp, ?_, ?_⟩
  · rw [nearby]
    linarith
  · rw [nearby]
    linarith

/-- The fraction makes no difference to the whole part if there are few digits. -/
theorem wholePart_of_rounds (few : l.HasFewDigits) {x : Float} (rounds : Rounds l.exact x) :
    x.isFinite = true ∧ wholePart (value x) = l.wholeNumber := by
  have low := (l.magnitude_bounds few.1).1
  obtain ⟨y, z, first, second, whole, high, below⟩ := l.exists_bounds few
  rw [← l.abs_exact] at low high
  obtain ⟨finite, upper⟩ := rounds.magnitude_le second high
  have above := rounds.le_magnitude first (whole ▸ low) finite
  rw [whole] at above
  have floor : ⌊|value x|⌋₊ = digitsValue 0 l.whole :=
    (Nat.floor_eq_iff (abs_nonneg _)).2 ⟨above, upper.trans_lt below⟩
  have signed : value x = withSign l.negative 1 * |value x| := by
    have exact : l.exact = withSign l.negative 1 * l.magnitude := rfl
    have nonneg := l.magnitude_nonneg
    cases sign : l.negative with
    | false =>
        have positive := rounds.value_nonneg (by simpa [exact, sign, withSign] using nonneg) finite
        simp [withSign, abs_of_nonneg positive]
    | true =>
        have negative := rounds.value_nonpos (by simpa [exact, sign, withSign] using nonneg) finite
        simp [withSign, abs_of_nonpos negative]
  refine ⟨finite, ?_⟩
  rw [signed, Binary64.wholePart_withSign _ (abs_nonneg _), floor]
  rfl

end Json.Literal

/-! ## Integers that are stored -/

namespace Scalar

/-- The scalar for an integer: the integer if a word holds it. -/
def ofWhole (n : Int) : Scalar := (Integer.ofInt? n).elim notNumber .integer

theorem ofWhole_of_inRange {n : Int} (inside : Integer.InRange n) :
    ofWhole n = .integer (Int64.ofInt n) := by
  have stored : Integer.ofInt? n = some (Int64.ofInt n) := if_pos inside
  rw [ofWhole, stored]
  rfl

/-- Integers that words hold are stored apart from all other integers. -/
theorem ofWhole_eq_iff {m n : Int} (inside : Integer.InRange m) :
    ofWhole m = ofWhole n ↔ m = n := by
  refine ⟨fun same => ?_, fun same => same ▸ rfl⟩
  rw [ofWhole_of_inRange inside] at same
  by_cases inside' : Integer.InRange n
  · rw [ofWhole_of_inRange inside'] at same
    have words := congrArg Int64.toInt (Scalar.integer.inj same)
    rwa [Integer.toInt_ofInt inside.1 inside.2, Integer.toInt_ofInt inside'.1 inside'.2] at words
  · rw [ofWhole, Integer.ofInt?_eq_none_iff.2 inside'] at same
    cases same

theorem inRange_wholePart {q : ℚ} (small : |q| < Integer.bound) :
    Integer.InRange (wholePart q) := by
  have magnitude := Binary64.natAbs_wholePart_lt.2 small
  unfold Integer.InRange Integer.least Integer.greatest
  omega

/-- A text that is a literal begins with the integer that the sign and the whole digits spell. -/
theorem leadingInteger?_of_literal {t : String} {l : Json.Literal} (text : l.chars = t.toList) :
    leadingInteger? t = Integer.ofInt? l.wholeNumber := by
  have ends : ∀ c ∈ (Binary64.pointed l.fraction ++ l.exponent).head?, c.isDigit = false := by
    rw [← l.takeWhile_unsigned.2]
    exact Text.eq_false_of_mem_head?_dropWhile Char.isDigit l.unsigned
  refine leadingInteger?_of_beginsWith ?_
  rw [← text]
  unfold Json.Literal.chars Json.Literal.wholeNumber
  cases l.negative with
  | true => exact .of_spells (.minus l.digits) ends
  | false => exact .of_spells (.plain l.digits) ends

theorem integerOfNumber_of_decode? {x : Float} {d : Binary64.Dyadic}
    (decoded : Binary64.decode? x = some d) :
    integerOfNumber (.float x) = if (d.toInteger .towardZero).natAbs < Integer.bound then
      .integer (Int64.ofInt (d.toInteger .towardZero)) else notNumber := by
  have unstored : (Json.Number.float x).toInt64? = none := rfl
  have number : (Json.Number.float x).toFloat = x := rfl
  rw [integerOfNumber, unstored, number]
  dsimp only
  rw [decoded]

/-- A floating-point number is stored without its fraction if a word holds it. -/
theorem integerOfNumber_of_lt {x : Float} (finite : x.isFinite = true)
    (small : |value x| < Integer.bound) :
    integerOfNumber (.float x) = ofWhole (wholePart (value x)) := by
  obtain ⟨d, decoded⟩ := Binary64.exists_decode? finite
  rw [integerOfNumber_of_decode? decoded, Binary64.toInteger_of_decode? decoded,
    if_pos (Binary64.natAbs_wholePart_lt.2 small), ofWhole_of_inRange (inRange_wholePart small)]

/-- Nothing is stored for a number that is too great. -/
theorem integerOfNumber_of_le {n : Json.Number} (unstored : n.toInt64? = none)
    (great : n.toFloat.isFinite = true → Integer.bound ≤ |value n.toFloat|) :
    integerOfNumber n = notNumber := by
  unfold integerOfNumber
  rw [unstored]
  dsimp only
  cases decoded : Binary64.decode? n.toFloat with
  | none => rfl
  | some d =>
      dsimp only
      rw [Binary64.toInteger_of_decode? decoded, if_neg]
      rw [Binary64.natAbs_wholePart_lt, not_lt]
      exact great (Binary64.isFinite_of_decode? decoded)

/-- Nothing is stored for an integer of which neither a word nor a floating-point number below
`2 ^ 63` can be made. -/
theorem integerOfNumber_of_not_inRange {n : Json.Number} {v : Int} (rounds : Rounds v n.toFloat)
    (unstored : n.toInt64? = none) (outside : ¬ Integer.InRange v) :
    integerOfNumber n = notNumber := by
  have great : Integer.bound ≤ v.natAbs := by
    unfold Integer.InRange Integer.least Integer.greatest at outside
    omega
  obtain ⟨y, finite, bound⟩ := Binary64.exists_value_two_pow (e := 63) (by decide)
  have bound : value y = Integer.bound := bound
  refine integerOfNumber_of_le unstored fun finite' => ?_
  rw [← bound]
  refine rounds.le_magnitude finite ?_ finite'
  rw [bound, ← Int.cast_abs, Int.abs_eq_natAbs]
  exact_mod_cast great

/-- A plain literal that no word holds is decoded to a number that no word holds. -/
theorem bound_le_of_decode? {decoder : Json.Decoder} (lawful : decoder.Lawful) {l : Json.Literal}
    (plain : l.IsPlain) (outside : ¬ Integer.InRange l.wholeNumber) {x : Float}
    (decoded : decoder.decode? l.negative l.unsigned = some x) : Integer.bound ≤ |value x| := by
  have magnitude := l.abs_exact.trans (l.magnitude_of_isPlain plain)
  have great : Integer.bound ≤ l.wholeNumber.natAbs := by
    unfold Integer.InRange Integer.least Integer.greatest at outside
    omega
  by_cases word : l.wholeNumber.natAbs < 2 ^ 64
  · have rounds := lawful.rounds (.inl ⟨plain, word⟩) decoded
    obtain ⟨y, finite, bound⟩ := Binary64.exists_value_two_pow (e := 63) (by decide)
    have bound : value y = Integer.bound := bound
    rw [← bound]
    refine rounds.le_magnitude finite ?_ (lawful.finite decoded)
    rw [bound, magnitude]
    exact_mod_cast great
  · have beyond : (2 ^ 64 : ℚ) ≤ |l.exact| := by
      rw [magnitude]
      exact_mod_cast not_lt.1 word
    have half := lawful.half decoded (by decide) beyond
    have bound : (Integer.bound : ℚ) = 2 ^ 63 := by norm_num [Integer.bound]
    rw [bound]
    linarith

section Lawful

variable {decoder : Json.Decoder} (lawful : decoder.Lawful) {l : Json.Literal} {n : Json.Number}
  (read : l.number? decoder = some n)
include lawful read

/-- A plain literal stands for the same integer as a number and as a text. -/
theorem integerOfNumber_of_isPlain (plain : l.IsPlain) :
    integerOfNumber n = ofWhole l.wholeNumber := by
  unfold Json.Literal.number? at read
  by_cases fits : l.FitsWord
  · rw [if_pos ⟨plain, fits⟩] at read
    cases read
    have word : (Json.Number.integer l.wholeNumber).toInt64? = Integer.ofInt? l.wholeNumber := rfl
    cases stored : Integer.ofInt? l.wholeNumber with
    | some i =>
        rw [integerOfNumber, word, ofWhole, stored]
        rfl
    | none =>
        have outside := Integer.ofInt?_eq_none_iff.1 stored
        rw [integerOfNumber_of_not_inRange (n := .integer l.wholeNumber)
          (Binary64.rounds_ofInteger _) (word.trans stored) outside, ofWhole, stored]
        rfl
  · rw [if_neg fun h => fits h.2] at read
    obtain ⟨x, decoded, rfl⟩ := Option.map_eq_some_iff.1 read
    by_cases inside : Integer.InRange l.wholeNumber
    · have zero := l.wholeNumber_eq_zero inside fits
      have rounds := lawful.rounds (.inl ⟨plain, by rw [zero]; decide⟩) decoded
      rw [l.exact_of_isPlain plain, zero, Int.cast_zero] at rounds
      obtain ⟨finite, nothing⟩ := rounds.value_eq Binary64.isFinite_zero Binary64.value_zero
      have whole : wholePart 0 = 0 := by simp [wholePart]
      have small : |value x| < Integer.bound := by simp [nothing, Integer.bound]
      rw [integerOfNumber_of_lt finite small, nothing, whole, zero]
    · have great := bound_le_of_decode? lawful plain inside decoded
      rw [integerOfNumber_of_le (n := .float x) rfl fun _ => great, ofWhole,
        Integer.ofInt?_eq_none_iff.2 inside]
      rfl

/-- A literal without an exponent and with few digits stands for the same integer as a number and as
a text. -/
theorem integerOfNumber_of_hasFewDigits (few : l.HasFewDigits) :
    integerOfNumber n = ofWhole l.wholeNumber := by
  by_cases plain : l.IsPlain
  · exact integerOfNumber_of_isPlain lawful read plain
  · rw [Json.Literal.number?, if_neg fun h => plain h.1] at read
    obtain ⟨x, decoded, rfl⟩ := Option.map_eq_some_iff.1 read
    obtain ⟨finite, whole⟩ := l.wholePart_of_rounds few (lawful.rounds (.inr few) decoded)
    have small : |value x| < Integer.bound := by
      rw [← Binary64.natAbs_wholePart_lt, whole, l.wholeNumber_natAbs]
      exact (l.digitsValue_whole_lt_of_hasFewDigits few).trans (by decide)
    rw [integerOfNumber_of_lt finite small, whole]

end Lawful

/-- A short literal is a number for every decoder. -/
theorem exists_number? {decoder : Json.Decoder} (lawful : decoder.Lawful) {l : Json.Literal}
    (short : l.IsShort) : ∃ n, l.number? decoder = some n := by
  unfold Json.Literal.number?
  split
  · exact ⟨_, rfl⟩
  · obtain ⟨x, decoded, -⟩ := lawful.short short
    exact ⟨.float x, Option.map_eq_some_iff.2 ⟨x, decoded, rfl⟩⟩

/-- A numeral is cast to the integer in front of its point or exponent as a text, and as a number to
the whole part of the floating-point number that it is decoded to. The two agree for integers, for
at most fifteen digits without an exponent, and wherever decoding keeps the whole part. -/
theorem integer_of_numeral {decoder : Json.Decoder} (lawful : decoder.Lawful) (t : String) :
    (∀ n, Json.Number.ofLiteral? decoder t.toList = some n →
      ∃ l : Json.Literal, l.chars = t.toList) ∧
    ∀ l : Json.Literal, l.chars = t.toList →
      ofJson .integer (.string t) = .ok (ofWhole l.wholeNumber) ∧
      (l.IsShort → ∃ n, Json.parse? decoder t = some (.number n)) ∧
      ∀ n, Json.parse? decoder t = some (.number n) →
        (l.IsPlain ∨ l.HasFewDigits →
          ofJson .integer (.number n) = ofJson .integer (.string t)) ∧
        (¬ l.IsPlain → ∃ x, decoder.decode? l.negative l.unsigned = some x ∧ n = .float x ∧
          x.isFinite = true ∧
          (|value x| < Integer.bound →
            ofJson .integer (.number n) = .ok (ofWhole (wholePart (value x))) ∧
            (ofJson .integer (.number n) = ofJson .integer (.string t) ↔
              wholePart (value x) = l.wholeNumber)) ∧
          (Integer.bound ≤ |value x| → ofJson .integer (.number n) = .ok notNumber)) := by
  refine ⟨fun n valid => ?_, fun l text => ?_⟩
  · obtain ⟨l, text, -⟩ := Json.ofLiteral?_eq_some_iff.1 valid
    exact ⟨l, text⟩
  have parsed : Json.parse? decoder t = _ := Json.parse?_of_literal text
  have cast (n : Json.Number) : ofJson .integer (.number n) = .ok (integerOfNumber n) := rfl
  have leading : ofJson .integer (.string t) = .ok (ofWhole l.wholeNumber) := by
    change Except.ok ((leadingInteger? t).elim notNumber .integer) = _
    rw [leadingInteger?_of_literal text]
    rfl
  refine ⟨leading, fun short => ?_, fun n valid => ?_⟩
  · obtain ⟨n, read⟩ := exists_number? lawful short
    exact ⟨n, parsed.trans (read ▸ rfl)⟩
  rw [parsed] at valid
  obtain ⟨m, read, same⟩ := Option.map_eq_some_iff.1 valid
  obtain rfl : m = n := Json.number.inj same
  refine ⟨fun agree => ?_, fun fractional => ?_⟩
  · rw [leading, cast]
    rcases agree with plain | few
    · rw [integerOfNumber_of_isPlain lawful read plain]
    · rw [integerOfNumber_of_hasFewDigits lawful read few]
  · rw [Json.Literal.number?, if_neg fun h => fractional h.1] at read
    obtain ⟨x, decoded, rfl⟩ := Option.map_eq_some_iff.1 read
    have finite := lawful.finite decoded
    refine ⟨x, decoded, rfl, finite, fun small => ?_, fun great => ?_⟩
    · have stored : ofJson .integer (.number (.float x)) = .ok (ofWhole (wholePart (value x))) := by
        rw [cast, integerOfNumber_of_lt finite small]
      refine ⟨stored, ?_⟩
      rw [stored, leading, Except.ok.injEq, ofWhole_eq_iff (inRange_wholePart small)]
    · rw [cast, integerOfNumber_of_le (n := .float x) rfl fun _ => great]

/-- The closest decoder takes a literal that is no integer to the closest number. -/
theorem parse?_nearest {t : String} {l : Json.Literal} {x : Float} (text : l.chars = t.toList)
    (fractional : ¬ l.IsPlain) (nearest : l.nearest = x) (finite : x.isFinite = true) :
    Json.parse? .nearest t = some (.number (.float x)) := by
  have decoded := Json.Decoder.decode?_nearest_eq_some_iff.2 ⟨nearest, finite⟩
  rw [Json.parse?_of_literal text, Json.Literal.number?, if_neg fun h => fractional h.1, decoded]
  rfl

/-- A literal with one digit in front of a point and one after it. -/
def threePointNine : Json.Literal :=
  ⟨false, ['3'], ['9'], [], 0, ⟨by decide, by simp⟩, by decide, by simp, .none⟩

/-- The fraction is dropped either way. -/
theorem integer_of_fraction :
    Json.parse? .nearest "3.9" = some (.number (.float 3.9)) ∧
      ofJson .integer (.string "3.9") = .ok (.integer 3) ∧
      ofJson .integer (.number (.float 3.9)) = .ok (.integer 3) := by
  have literal : threePointNine.chars = "3.9".toList := by decide +kernel
  have valid : Json.parse? .nearest "3.9" = some (.number (.float 3.9)) :=
    parse?_nearest literal (by decide) (by decide +kernel) (by decide +kernel)
  obtain ⟨text, -, number⟩ :=
    (integer_of_numeral Json.Decoder.lawful_nearest "3.9").2 threePointNine literal
  have three : ofWhole threePointNine.wholeNumber = .integer 3 := rfl
  rw [three] at text
  exact ⟨valid, text, ((number _ valid).1 (.inr (by decide))).trans text⟩

/-- A literal with an exponent. -/
def oneThousand : Json.Literal :=
  ⟨false, ['1'], [], ['e', '3'], 3, ⟨by decide, by simp⟩, by decide, by simp,
    .some (.inl rfl) (.plain ⟨by decide, by simp⟩)⟩

/-- A literal with so many digits after the point that it is rounded to one. -/
def almostOne : Json.Literal :=
  ⟨false, ['0'], List.replicate 17 '9', [], 0, ⟨by decide, by simp⟩, by decide, by simp, .none⟩

/-- An exponent counts in a number only, and a number may be rounded to the next integer. -/
theorem integers_differ :
    (Json.parse? .nearest "1e3" = some (.number (.float 1000)) ∧
      ofJson .integer (.number (.float 1000)) = .ok (.integer 1000) ∧
      ofJson .integer (.string "1e3") = .ok (.integer 1)) ∧
    Json.parse? .nearest "0.99999999999999999" = some (.number (.float 1)) ∧
      ofJson .integer (.number (.float 1)) = .ok (.integer 1) ∧
      ofJson .integer (.string "0.99999999999999999") = .ok (.integer 0) := by
  have literal : oneThousand.chars = "1e3".toList := by decide +kernel
  have literal' : almostOne.chars = "0.99999999999999999".toList := by decide +kernel
  have valid := parse?_nearest (x := 1000) literal (by decide) (by decide +kernel)
    (by decide +kernel)
  have valid' := parse?_nearest (x := 1) literal' (by decide) (by decide +kernel)
    (by decide +kernel)
  have decoded : Binary64.decode? 1000 = some ⟨false, 8796093022208000, -43⟩ := by decide +kernel
  have decoded' : Binary64.decode? 1 = some ⟨false, 4503599627370496, -52⟩ := by decide +kernel
  have number (x : Float) : ofJson .integer (.number (.float x)) =
      .ok (integerOfNumber (.float x)) := rfl
  have text (t : String) : ofJson .integer (.string t) =
      .ok ((leadingInteger? t).elim notNumber .integer) := rfl
  refine ⟨⟨valid, ?_, ?_⟩, valid', ?_, ?_⟩
  · rw [number, integerOfNumber_of_decode? decoded]
    rfl
  · rw [text, leadingInteger?_of_literal literal]
    rfl
  · rw [number, integerOfNumber_of_decode? decoded']
    rfl
  · rw [text, leadingInteger?_of_literal literal']
    rfl

end Scalar

end ItemScoring
