import ItemScoring.Numeric.Integer
import ItemScoring.Proofs.Blank
import ItemScoring.Proofs.Results

/-!
# Numerals of 64-bit integers

A numeral is a run of digits with an optional sign in front, and it stands for one integer. Reading
a whole text succeeds exactly on the numerals of integers in range (`read_eq_ok`), and the text of
an integer is one of its numerals, so it reads back.
-/

set_option autoImplicit false

namespace ItemScoring.Integer

/-! ## The range -/

theorem bounds (n : Int64) : least ≤ n.toInt ∧ n.toInt ≤ greatest := by
  have low := n.le_toInt
  have high := n.toInt_lt
  have : least = -9223372036854775808 := rfl
  have : greatest = 9223372036854775807 := rfl
  omega

theorem toInt_ofInt {n : Int} (low : least ≤ n) (high : n ≤ greatest) :
    (Int64.ofInt n).toInt = n := by
  have : least = -9223372036854775808 := rfl
  have : greatest = 9223372036854775807 := rfl
  exact Int64.toInt_ofInt_of_le (by omega) (by omega)

/-- Every word is found for the integer that it holds. -/
theorem ofInt?_toInt (n : Int64) : ofInt? n.toInt = some n := by
  unfold ofInt?
  rw [if_pos (bounds n), Int64.ofInt_toInt]

/-- A word holds the integer. -/
def InRange (n : Int) : Prop := least ≤ n ∧ n ≤ greatest

instance (n : Int) : Decidable (InRange n) := inferInstanceAs (Decidable (_ ∧ _))

theorem inRange_toInt (n : Int64) : InRange n.toInt := bounds n

theorem exists_toInt_eq {n : Int} (h : InRange n) : ∃ word : Int64, word.toInt = n :=
  ⟨Int64.ofInt n, toInt_ofInt h.1 h.2⟩

theorem ofInt?_eq_some_iff {n : Int} {word : Int64} : ofInt? n = some word ↔ word.toInt = n := by
  constructor
  · intro h
    unfold ofInt? at h
    split at h
    · next range =>
        cases h
        exact toInt_ofInt range.1 range.2
    · cases h
  · intro h
    rw [← h, ofInt?_toInt]

theorem ofInt?_eq_none_iff {n : Int} : ofInt? n = none ↔ ¬ InRange n := by
  unfold ofInt? InRange
  split <;> simp_all

/-! ## Numerals -/

/-- There is a digit, and there is nothing else. -/
structure IsDigits (cs : List Char) : Prop where
  nonempty : cs ≠ []
  digits : ∀ c ∈ cs, c.isDigit = true

/-- A run of digits ends where another character stands. -/
theorem digits_append {ds rest : List Char} (digits : ∀ c ∈ ds, c.isDigit = true)
    (ends : ∀ c ∈ rest.head?, c.isDigit = false) :
    (ds ++ rest).takeWhile Char.isDigit = ds ∧ (ds ++ rest).dropWhile Char.isDigit = rest := by
  have stops : rest.takeWhile Char.isDigit = [] ∧ rest.dropWhile Char.isDigit = rest := by
    cases rest with
    | nil => exact ⟨rfl, rfl⟩
    | cons c _ => simp [ends c rfl]
  rw [List.takeWhile_append_of_pos digits, List.dropWhile_append_of_pos digits, stops.1, stops.2,
    List.append_nil]
  exact ⟨rfl, rfl⟩

/-- A numeral of an integer: digits, with an optional sign in front. -/
inductive Spells : List Char → Int → Prop where
  | plain {ds : List Char} (h : IsDigits ds) : Spells ds (digitsValue 0 ds)
  | plus {ds : List Char} (h : IsDigits ds) : Spells ('+' :: ds) (digitsValue 0 ds)
  | minus {ds : List Char} (h : IsDigits ds) : Spells ('-' :: ds) (-(digitsValue 0 ds : Int))

theorem isDigits_toDigits (m : Nat) : IsDigits (Nat.toDigits 10 m) where
  nonempty := Nat.toDigits_ne_nil
  digits _ hc := Nat.isDigit_of_mem_toDigits (by decide) (by decide) hc

theorem digitsValue_toDigits (m : Nat) : digitsValue 0 (Nat.toDigits 10 m) = m :=
  Nat.ofDigitChars_ten_toDigits

/-- The text of an integer is a numeral of it. -/
theorem spells_text (n : Int) : Spells (text n).toList n := by
  cases n with
  | ofNat m =>
      have plain := Spells.plain (isDigits_toDigits m)
      rw [digitsValue_toDigits] at plain
      rwa [text, String.toList_ofList]
  | negSucc m =>
      have minus := Spells.minus (isDigits_toDigits (m + 1))
      rw [digitsValue_toDigits] at minus
      rwa [text, String.toList_ofList]

theorem isBlank_of_isDigit {c : Char} (h : c.isDigit = true) : Text.isBlank c = false := by
  simp only [Char.isDigit, Bool.and_eq_true, decide_eq_true_eq, ge_iff_le, UInt32.le_iff_toNat_le]
    at h
  have zero : ('0' : Char).val.toNat = 48 := rfl
  have nine : ('9' : Char).val.toNat = 57 := rfl
  have value : c.val.toNat = c.toNat := rfl
  rw [zero, nine, value] at h
  simp only [Text.isBlank, Bool.or_eq_false_iff, Bool.and_eq_false_iff, decide_eq_false_iff_not,
    beq_eq_false_iff_ne]
  omega

/-- There is no blank in a numeral. -/
theorem Spells.isWord {cs : List Char} {n : Int} (h : Spells cs n) : Text.IsWord cs := by
  have unbroken : ∀ {ds : List Char}, IsDigits ds → ∀ c ∈ ds, Text.isBlank c = false :=
    fun h c hc => isBlank_of_isDigit (h.digits c hc)
  cases h with
  | plain h => exact ⟨h.nonempty, unbroken h⟩
  | plus h => exact ⟨List.cons_ne_nil _ _, List.forall_mem_cons.2 ⟨by decide, unbroken h⟩⟩
  | minus h => exact ⟨List.cons_ne_nil _ _, List.forall_mem_cons.2 ⟨by decide, unbroken h⟩⟩

/-! ## Reading -/

theorem le_digitsValue (sofar : Nat) (cs : List Char) : sofar ≤ digitsValue sofar cs := by
  induction cs generalizing sofar with
  | nil => exact Nat.le_refl sofar
  | cons c rest ih =>
      have further : 10 * sofar + digitValue c ≤ digitsValue sofar (c :: rest) := ih _
      omega

/-- Digits are read to their value when it is within the limit. The value only grows from digit to
digit, so whatever is beyond the limit on the way is beyond it in the end. -/
theorem readDigits_eq_ok {limit : Nat} {beyond : Fault} {sofar : Nat} (within : sofar ≤ limit)
    {cs : List Char} {m : Nat} :
    readDigits limit beyond sofar cs = .ok m ↔
      (∀ c ∈ cs, c.isDigit = true) ∧ digitsValue sofar cs = m ∧ m ≤ limit := by
  induction cs generalizing sofar with
  | nil =>
      simp only [readDigits, digitsValue, List.foldl_nil]
      constructor
      · rintro ⟨⟩
        exact ⟨List.forall_mem_nil _, rfl, within⟩
      · rintro ⟨-, rfl, -⟩
        rfl
  | cons c rest ih =>
      rw [readDigits, List.forall_mem_cons]
      by_cases digit : c.isDigit = true
      · rw [if_pos digit]
        by_cases still : 10 * sofar + digitValue c ≤ limit
        · rw [if_pos still, ih still]
          simp only [digit, true_and]
          rfl
        · rw [if_neg still]
          have grows : 10 * sofar + digitValue c ≤ digitsValue sofar (c :: rest) :=
            le_digitsValue _ rest
          constructor
          · rintro ⟨⟩
          · rintro ⟨-, rfl, high⟩
            omega
      · rw [if_neg digit]
        constructor
        · rintro ⟨⟩
        · rintro ⟨digits, -⟩
          exact absurd digits.1 digit

/-- The sign is put on when all digits have been read, and does not change what is refused. -/
theorem map_readDigits_eq_ok {limit : Nat} {beyond : Fault} {f : Int → Int64} {ds : List Char}
    {n : Int64} :
    (readDigits limit beyond 0 ds).map (fun m => f m) = .ok n ↔
      (∀ c ∈ ds, c.isDigit = true) ∧ digitsValue 0 ds ≤ limit ∧ f (digitsValue 0 ds) = n := by
  refine Result.map_eq_ok.trans ?_
  simp only [Result.bind_eq_ok, readDigits_eq_ok (Nat.zero_le limit)]
  constructor
  · rintro ⟨_, ⟨m, ⟨digits, rfl, within⟩, ⟨⟩⟩, word⟩
    exact ⟨digits, within, word⟩
  · rintro ⟨digits, within, word⟩
    exact ⟨_, ⟨_, ⟨digits, rfl, within⟩, rfl⟩, word⟩

theorem readPositive_eq_ok {ds : List Char} {n : Int64} :
    (readDigits (bound - 1) .tooLarge 0 ds).map (fun m => Int64.ofInt m) = .ok n ↔
      (∀ c ∈ ds, c.isDigit = true) ∧ (digitsValue 0 ds : Int) = n.toInt := by
  refine (map_readDigits_eq_ok (f := Int64.ofInt)).trans ?_
  refine and_congr_right fun _ => ⟨?_, fun value => ?_⟩
  · rintro ⟨within, rfl⟩
    have positive : 0 < bound := by decide
    exact (toInt_ofInt (by simp only [least]; omega) (by simp only [greatest]; omega)).symm
  · have high := (bounds n).2
    simp only [greatest, ← value] at high
    exact ⟨by omega, by rw [value, Int64.ofInt_toInt]⟩

theorem readNegative_eq_ok {ds : List Char} {n : Int64} :
    (readDigits bound .tooSmall 0 ds).map (fun m => Int64.ofInt (-m)) = .ok n ↔
      (∀ c ∈ ds, c.isDigit = true) ∧ -(digitsValue 0 ds : Int) = n.toInt := by
  refine (map_readDigits_eq_ok (f := fun m => Int64.ofInt (-m))).trans ?_
  refine and_congr_right fun _ => ⟨?_, fun value => ?_⟩
  · rintro ⟨within, rfl⟩
    have positive : 0 ≤ greatest := by decide
    exact (toInt_ofInt (by simp only [least]; omega) (by omega)).symm
  · have low := (bounds n).1
    simp only [least, ← value] at low
    exact ⟨by omega, by rw [value, Int64.ofInt_toInt]⟩

/-- A whole text is read to the integer of which it is a numeral. -/
theorem readChars_eq_ok {cs : List Char} {n : Int64} :
    readChars cs = .ok n ↔ Spells cs n.toInt := by
  constructor
  · intro h
    unfold readChars at h
    split at h
    · cases h
    · cases h
    · cases h
    · next ds _ some =>
        obtain ⟨digits, value⟩ := readPositive_eq_ok.1 h
        exact value ▸ .plus ⟨some, digits⟩
    · next ds _ some =>
        obtain ⟨digits, value⟩ := readNegative_eq_ok.1 h
        exact value ▸ .minus ⟨some, digits⟩
    · next ds some _ _ _ _ =>
        obtain ⟨digits, value⟩ := readPositive_eq_ok.1 h
        exact value ▸ .plain ⟨some, digits⟩
  · intro h
    generalize value : n.toInt = m at h
    cases h with
    | plain h =>
        have digit : ∀ {c : Char} {ds : List Char}, cs = c :: ds → c.isDigit = true := by
          intro c ds first
          exact h.digits c (by simp [first])
        -- A numeral without a sign begins with a digit, so it is read in the last branch.
        unfold readChars
        split
        · exact absurd rfl h.nonempty
        · exact absurd (digit rfl) (by decide)
        · exact absurd (digit rfl) (by decide)
        · exact absurd (digit rfl) (by decide)
        · exact absurd (digit rfl) (by decide)
        · exact readPositive_eq_ok.2 ⟨h.digits, value.symm⟩
    | plus h =>
        obtain ⟨d, ds, rfl⟩ := List.exists_cons_of_ne_nil h.nonempty
        exact readPositive_eq_ok.2 ⟨h.digits, value.symm⟩
    | minus h =>
        obtain ⟨d, ds, rfl⟩ := List.exists_cons_of_ne_nil h.nonempty
        exact readNegative_eq_ok.2 ⟨h.digits, value.symm⟩

theorem read_eq_ok {s : String} {n : Int64} : read s = .ok n ↔ Spells s.toList n.toInt :=
  readChars_eq_ok

end ItemScoring.Integer
