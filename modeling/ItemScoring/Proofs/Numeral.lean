import Mathlib.Data.List.Basic
import ItemScoring.Json.Reader
import ItemScoring.Proofs.Integer

/-!
# Decimal numerals

An unsigned numeral is a run of digits, a fraction after a point, and an exponent: a mark and a
numeral of an integer. It is read to the number that its digits make, scaled by the exponent and by
the length of the fraction (`readUnsigned?_eq`). Whatever is read as a number has no blank in it
(`unbroken_of_readChars?`).
-/

set_option autoImplicit false

namespace ItemScoring.Binary64

open Integer (IsDigits Spells digitsValue digits_append)

/-! ## Exponents -/

/-- The exponent of a numeral: nothing, or a mark and a numeral of an integer. -/
inductive Scales : List Char → Int → Prop where
  | none : Scales [] 0
  | some {mark : Char} {ds : List Char} {e : Int} (marked : mark = 'e' ∨ mark = 'E')
      (spelled : Spells ds e) : Scales (mark :: ds) e

/-- Digits are taken to their value with the sign in front of them. -/
theorem signedDigits_eq_some (negative : Bool) (ds : List Char) (e : Int) :
    (if ds.isEmpty || !ds.all Char.isDigit then none
      else
        let n : Int := digitsNumber ds
        some (if negative then -n else n)) = some e ↔
      IsDigits ds ∧ withSign negative (digitsValue 0 ds) = e := by
  by_cases digits : IsDigits ds
  · have all : ds.all Char.isDigit = true := List.all_eq_true.2 digits.digits
    rw [if_neg (by simp [all, digits.nonempty]), and_iff_right digits]
    exact Option.some_inj
  · rw [if_pos]
    · simp [digits]
    · by_contra accepted
      simp only [Bool.or_eq_true, not_or, List.isEmpty_iff, Bool.not_eq_true', Bool.not_eq_false]
        at accepted
      exact digits ⟨accepted.1, List.all_eq_true.1 accepted.2⟩

/-- What follows the mark of an exponent is read to the integer that it spells. -/
theorem exponentPart?_cons {mark : Char} (marked : mark = 'e' ∨ mark = 'E') (cs : List Char)
    (e : Int) : exponentPart? (mark :: cs) = some e ↔ Spells cs e := by
  unfold exponentPart?
  dsimp only
  rw [if_pos marked]
  split
  next ds =>
    refine (signedDigits_eq_some true ds e).trans ⟨?_, fun spelled => ?_⟩
    · rintro ⟨digits, rfl⟩
      exact .minus digits
    · cases spelled with
      | plain digits => exact absurd (digits.digits _ List.mem_cons_self) (by decide)
      | minus digits => exact ⟨digits, rfl⟩
  next ds =>
    refine (signedDigits_eq_some false ds e).trans ⟨?_, fun spelled => ?_⟩
    · rintro ⟨digits, rfl⟩
      exact .plus digits
    · cases spelled with
      | plain digits => exact absurd (digits.digits _ List.mem_cons_self) (by decide)
      | plus digits => exact ⟨digits, rfl⟩
  next noMinus noPlus =>
    refine (signedDigits_eq_some false cs e).trans ⟨?_, fun spelled => ?_⟩
    · rintro ⟨digits, rfl⟩
      exact .plain digits
    · cases spelled with
      | plain digits => exact ⟨digits, rfl⟩
      | plus digits => exact absurd rfl (noPlus _)
      | minus digits => exact absurd rfl (noMinus _)

/-- The exponent of a numeral is read to the power that it scales by. -/
theorem exponentPart?_eq_some_iff {cs : List Char} {e : Int} :
    exponentPart? cs = some e ↔ Scales cs e := by
  constructor
  · intro h
    cases cs with
    | nil =>
        cases h
        exact .none
    | cons mark ds =>
        by_cases marked : mark = 'e' ∨ mark = 'E'
        · exact .some marked ((exponentPart?_cons marked ds e).1 h)
        · unfold exponentPart? at h
          dsimp only at h
          rw [if_neg marked] at h
          cases h
  · intro h
    cases h with
    | none => rfl
    | some marked spelled => exact (exponentPart?_cons marked _ e).2 spelled

/-! ## Unsigned numerals -/

/-- A fraction with its point; a numeral without a fraction has no point. -/
def pointed (fraction : List Char) : List Char :=
  if fraction = [] then [] else '.' :: fraction

/-- The exponent does not go on with digits or with a point. -/
theorem Scales.head {cs : List Char} {e : Int} (h : Scales cs e) :
    ∀ c ∈ cs.head?, c.isDigit = false ∧ c ≠ '.' := by
  cases h with
  | none => exact nofun
  | some marked =>
      rintro c ⟨⟩
      rcases marked with rfl | rfl <;> decide

section Unsigned

variable {whole fraction tail : List Char} {e : Int} (digits : IsDigits whole)
  (others : ∀ c ∈ fraction, c.isDigit = true) (scales : Scales tail e)
include digits others scales

/-- A numeral is read to the number that its digits make, scaled by its exponent and by the length
of its fraction. -/
theorem readUnsigned?_eq :
    readUnsigned? (whole ++ (pointed fraction ++ tail)) =
      some (ofDecimal (digitsValue 0 (whole ++ fraction)) (e - fraction.length)) := by
  have power := exponentPart?_eq_some_iff.2 scales
  have ends : ∀ c ∈ (pointed fraction ++ tail).head?, c.isDigit = false := by
    unfold pointed
    split
    · exact fun c hc => (scales.head c hc).1
    · rintro c ⟨⟩
      rfl
  obtain ⟨first, rest⟩ := digits_append digits.digits ends
  have some : whole.isEmpty = false := by simp [digits.nonempty]
  unfold readUnsigned?
  dsimp only
  rw [first, rest, some]
  by_cases none : fraction = []
  · subst none
    have unpointed : pointed [] ++ tail = tail := rfl
    rw [unpointed]
    split
    · exact absurd rfl (scales.head _ rfl).2
    · dsimp only
      rw [power]
      rfl
  · have dot : pointed fraction ++ tail = '.' :: (fraction ++ tail) := by simp [pointed, none]
    obtain ⟨second, remainder⟩ := digits_append others fun c hc => (scales.head c hc).1
    simp only [dot, second, remainder, power]
    rfl

end Unsigned

/-! ## Numerals have no blanks -/

/-- There is no blank in a text. -/
def Unbroken (cs : List Char) : Prop := ∀ c ∈ cs, Text.isBlank c = false

theorem unbroken_takeWhile_isDigit (cs : List Char) : Unbroken (cs.takeWhile Char.isDigit) :=
  fun c mem => Integer.isBlank_of_isDigit (List.all_eq_true.1 List.all_takeWhile c mem)

theorem unbroken_of_dropWhile {cs : List Char} (h : Unbroken (cs.dropWhile Char.isDigit)) :
    Unbroken cs := by
  unfold Unbroken
  rw [← List.takeWhile_append_dropWhile (p := Char.isDigit) (l := cs)]
  exact List.forall_mem_append.2 ⟨unbroken_takeWhile_isDigit cs, h⟩

theorem unbroken_of_exponentPart? {cs : List Char} {e : Int} (h : exponentPart? cs = some e) :
    Unbroken cs := by
  cases exponentPart?_eq_some_iff.1 h with
  | none => exact List.forall_mem_nil _
  | some marked spelled =>
      refine List.forall_mem_cons.2 ⟨?_, spelled.isWord.unbroken⟩
      rcases marked with rfl | rfl <;> decide

theorem unbroken_of_readUnsigned? {cs : List Char} {x : Float} (h : readUnsigned? cs = some x) :
    Unbroken cs := by
  refine unbroken_of_dropWhile ?_
  unfold readUnsigned? at h
  dsimp only at h
  split at h
  next after point =>
    rw [point]
    split at h
    · cases h
    · obtain ⟨e, power, -⟩ := Option.map_eq_some_iff.1 h
      exact List.forall_mem_cons.2
        ⟨by decide, unbroken_of_dropWhile (unbroken_of_exponentPart? power)⟩
  next =>
    split at h
    · cases h
    · obtain ⟨e, power, -⟩ := Option.map_eq_some_iff.1 h
      exact unbroken_of_exponentPart? power

/-- Blanks are not letters, so no letter case makes them any. -/
theorem toLower_of_isBlank {c : Char} (blank : Text.isBlank c = true) : c.toLower = c := by
  refine dif_neg fun upper => ?_
  have first : ('A' : Char).val.toNat = 65 := rfl
  have last : ('Z' : Char).val.toNat = 90 := rfl
  have value : c.val.toNat = c.toNat := rfl
  rw [ge_iff_le, UInt32.le_iff_toNat_le, UInt32.le_iff_toNat_le, first, last, value] at upper
  simp only [Text.isBlank, Bool.or_eq_true, Bool.and_eq_true, decide_eq_true_eq, beq_iff_eq]
    at blank
  omega

/-- There is no blank in the words for infinity and for what is no number. -/
theorem unbroken_of_readWord? {cs : List Char} {x : Float} (h : readWord? cs = some x) :
    Unbroken cs := by
  have letters : ∀ {word : List Char}, cs.map Char.toLower = word →
      word.all (fun c => !Text.isBlank c) = true → Unbroken cs := by
    rintro _ rfl all c mem
    cases blank : Text.isBlank c with
    | false => rfl
    | true =>
        have lower := List.all_eq_true.1 all _ (List.mem_map_of_mem mem)
        rw [toLower_of_isBlank blank, blank] at lower
        cases lower
  unfold readWord? at h
  dsimp only at h
  split at h
  next word =>
    rcases word with word | word <;> exact letters word (by decide)
  next =>
    split at h
    next word => exact letters word (by decide)
    next => cases h

/-- Whatever is read as a number has no blank in it. -/
theorem unbroken_of_readChars? {cs : List Char} {x : Float} (h : readChars? cs = some x) :
    Unbroken cs := by
  have body (negative : Bool) {ds : List Char}
      (read : (signed negative <$> (readUnsigned? ds <|> readWord? ds)) = some x) :
      Unbroken ds := by
    obtain ⟨y, found, -⟩ := Option.map_eq_some_iff.1 read
    cases unsigned : readUnsigned? ds with
    | some z => exact unbroken_of_readUnsigned? unsigned
    | none =>
        rw [unsigned] at found
        exact unbroken_of_readWord? found
  unfold readChars? at h
  dsimp only at h
  split at h
  next rest => exact List.forall_mem_cons.2 ⟨by decide, body true h⟩
  next rest => exact List.forall_mem_cons.2 ⟨by decide, body false h⟩
  next => exact body false h

end ItemScoring.Binary64
