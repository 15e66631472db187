import ItemScoring.Proofs.Results
import ItemScoring.Proofs.Typing.Value

/-!
# The kinds of scalars that casting yields

A base type stores scalars of the kind that it is named after. Besides, what stands for a number
that cannot be read is stored as an integer, and an integer or an identifier is stored where either
is declared. Every reader yields a scalar that its base type stores, with one exception: a JSON
number that is too large for an integer becomes what stands for an unreadable number also where an
integer or an identifier is declared.
-/

set_option autoImplicit false

namespace ItemScoring

/-! ## What a base type stores -/

namespace Scalar

/-- The scalars that values of each base type are made of. -/
inductive StoredAs : BaseType → Scalar → Prop where
  | identifier (name : String) : StoredAs .identifier (.identifier name)
  | boolean (b : Bool) : StoredAs .boolean (.boolean b)
  | integer (n : Int64) : StoredAs .integer (.integer n)
  /-- What stands for an integer that could not be read. -/
  | noInteger {x : Binary64} (notNumber : x.toFloat.isNaN = true) :
      StoredAs .integer (.float x)
  | float (x : Binary64) : StoredAs .float (.float x)
  | string (s : String) : StoredAs .string (.string s)
  | point (x y : Int64) : StoredAs .point (.point x y)
  | pair (a b : String) : StoredAs .pair (.pair a b)
  | directedPair (a b : String) : StoredAs .directedPair (.directedPair a b)
  | duration (d : Duration) : StoredAs .duration (.duration d)
  | file (contents : String) : StoredAs .file (.file contents)
  | uri (u : String) : StoredAs .uri (.uri u)
  | index (n : Int64) : StoredAs .intOrIdentifier (.integer n)
  | name (name : String) : StoredAs .intOrIdentifier (.identifier name)

variable {b : BaseType} {s : Scalar}

/-- A scalar that fits is stored, but for numbers among the integers. -/
theorem storedAs_iff :
    s.StoredAs b ↔ s.fits b = true ∧ ∀ x, b = .integer → s = .float x →
      x.toFloat.isNaN = true := by
  constructor
  · intro stored
    cases stored with
    | noInteger notNumber => simpa [fits] using notNumber
    | _ => simp [fits]
  · rintro ⟨fit, numbers⟩
    cases b <;> cases s <;> cases fit
    case mpr.integer.float.refl x => exact .noInteger (numbers x rfl rfl)
    all_goals constructor

theorem notNumber_storedAs : notNumber.StoredAs .integer :=
  .noInteger (by decide +kernel)

theorem not_notNumber_storedAs : ¬ notNumber.StoredAs .intOrIdentifier := by
  rintro ⟨⟩

/-! ## Reading texts and truth values -/

theorem storedAs_of_read {raw : String} (h : read b raw = .ok s) : s.StoredAs b := by
  refine storedAs_iff.2 ⟨read_fits h, ?_⟩
  rintro x rfl rfl
  have number : (leadingInteger? raw).elim notNumber .integer = .float x := Except.ok.inj h
  cases leading : leadingInteger? raw with
  | some n =>
      rw [leading] at number
      cases number
  | none =>
      rw [leading] at number
      cases number
      decide +kernel

theorem storedAs_of_ofBool {t : Bool} (h : ofBool b t = .ok s) : s.StoredAs b := by
  cases b with
  | boolean | integer | float =>
      cases h
      constructor
  | identifier | string | point | pair | directedPair | duration | file | uri | intOrIdentifier =>
      exact storedAs_of_read h

end Scalar

/-! ## Reading numbers -/

/-- The number is no integer in range, and it has no whole part in range either. -/
def Json.Number.ExceedsIntegers (n : Json.Number) : Prop :=
  n.toInt64? = none ∧ ∀ d, Binary64.decode? n.toFloat = some d →
    Integer.bound ≤ (d.toInteger .towardZero).natAbs

namespace Scalar

variable {b : BaseType} {s : Scalar} {n : Json.Number}

/-- A number that exceeds the integers is read as an unreadable one. -/
theorem integerOfNumber_of_exceeds (h : n.ExceedsIntegers) : integerOfNumber n = notNumber := by
  obtain ⟨noInteger, exceeds⟩ := h
  unfold integerOfNumber
  rw [noInteger]
  cases parts : Binary64.decode? n.toFloat with
  | none => rfl
  | some d =>
      have large : ¬ (d.toInteger .towardZero).natAbs < Integer.bound :=
        Nat.not_lt.2 (exceeds d parts)
      exact if_neg large

/-- Every other number is read as an integer. -/
theorem exists_integer_of_not_exceeds (h : ¬ n.ExceedsIntegers) :
    ∃ k, integerOfNumber n = .integer k := by
  unfold integerOfNumber
  cases whole : n.toInt64? with
  | some k => exact ⟨k, rfl⟩
  | none =>
      have inRange : ∃ d, Binary64.decode? n.toFloat = some d ∧
          (d.toInteger .towardZero).natAbs < Integer.bound := by
        by_contra none
        refine h ⟨whole, fun d parts => ?_⟩
        by_contra small
        exact none ⟨d, parts, Nat.not_le.1 small⟩
      obtain ⟨d, parts, small⟩ := inRange
      rw [parts]
      exact ⟨_, if_pos small⟩

theorem integerOfNumber_storedAs (n : Json.Number) :
    (integerOfNumber n).StoredAs .integer := by
  by_cases exceeds : n.ExceedsIntegers
  · rw [integerOfNumber_of_exceeds exceeds]
    exact notNumber_storedAs
  · obtain ⟨k, value⟩ := exists_integer_of_not_exceeds exceeds
    rw [value]
    exact .integer k

/-- What is read from a number is stored, unless the number exceeds the integers where an integer or
an identifier is declared. -/
theorem storedAs_of_ofNumber (h : ofNumber b n = .ok s)
    (inRange : b = .intOrIdentifier → ¬ n.ExceedsIntegers) : s.StoredAs b := by
  cases b with
  | intOrIdentifier =>
      obtain rfl : integerOfNumber n = s := Except.ok.inj h
      obtain ⟨k, value⟩ := exists_integer_of_not_exceeds (inRange rfl)
      rw [value]
      exact .index k
  | integer =>
      obtain rfl : integerOfNumber n = s := Except.ok.inj h
      exact integerOfNumber_storedAs n
  | float =>
      cases h
      exact .float _
  | boolean =>
      simp only [ofNumber] at h
      split at h
      · cases h
        exact .boolean false
      split at h
      · cases h
        exact .boolean true
      · cases h
  | duration =>
      simp only [ofNumber] at h
      split at h
      · cases h
        exact .duration _
      · cases h
  | identifier | string | point | pair | directedPair | file | uri => exact storedAs_of_read h

/-! ## Reading JSON -/

/-- What is read from JSON is stored, unless it is read from a number that exceeds the integers
where an integer or an identifier is declared. -/
theorem storedAs_of_ofJson {raw : Json} (h : ofJson b raw = .ok s)
    (inRange : b = .intOrIdentifier → ∀ n, raw = .number n → ¬ n.ExceedsIntegers) :
    s.StoredAs b := by
  unfold ofJson at h
  split at h
  · exact storedAs_of_read h
  · exact storedAs_of_ofNumber h fun both => inRange both _ rfl
  · exact storedAs_of_ofBool h
  · exact storedAs_of_read h
  · cases h
  · split at h
    · next isFile =>
        cases h
        subst isFile
        exact .file _
    · cases h

/-- A base type stores what is read for it, with one exception. A number that exceeds the integers,
read where an integer or an identifier is declared, is read as what stands for an unreadable number,
which is neither. -/
theorem ofJson_storedAs_iff {raw : Json} (h : ofJson b raw = .ok s) :
    s.StoredAs b ↔
      ¬ (b = .intOrIdentifier ∧ ∃ n, raw = .number n ∧ n.ExceedsIntegers) := by
  constructor
  · rintro stored ⟨rfl, n, rfl, exceeds⟩
    obtain rfl : integerOfNumber n = s := Except.ok.inj h
    rw [integerOfNumber_of_exceeds exceeds] at stored
    exact not_notNumber_storedAs stored
  · intro usual
    exact storedAs_of_ofJson h fun both n number exceeds => usual ⟨both, n, number, exceeds⟩

/-- A number with a fraction is in range, and its whole part is stored. -/
theorem fraction_storedAs :
    ofJson .intOrIdentifier (.number (.float (-2.5))) = .ok (.integer (-2)) ∧
      StoredAs .intOrIdentifier (.integer (-2)) := by
  have loaded : ofJson .intOrIdentifier (.number (.float (-2.5))) = .ok (.integer (-2)) := rfl
  refine ⟨loaded, (ofJson_storedAs_iff loaded).2 ?_⟩
  rintro ⟨-, n, number, exceeds⟩
  cases number
  have unreadable : ofJson .intOrIdentifier (.number (.float (-2.5))) = .ok notNumber :=
    congrArg Except.ok (integerOfNumber_of_exceeds exceeds)
  cases loaded.symm.trans unreadable

/-- The least integer above the range is read as what stands for an unreadable number, although an
integer or an identifier is declared. -/
theorem large_number_not_storedAs :
    ofJson .intOrIdentifier (.number (.integer 9223372036854775808)) = .ok notNumber ∧
      ¬ notNumber.StoredAs .intOrIdentifier :=
  ⟨rfl, not_notNumber_storedAs⟩

end Scalar

end ItemScoring
