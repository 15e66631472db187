import Mathlib
import ItemScoring.Proofs.Comparison
import ItemScoring.Proofs.Typing.Evaluation
import ItemScoring.Proofs.Typing.Lookup

/-!
# Looking up integers

A match table has integers for keys, but what is looked up is a floating-point number, and so are
the keys when they are compared with it. So the first entry is found whose key is rounded to the
same 53 digits as the integer that is looked up. It is the entry with that integer for a key unless
a different key of more than 53 digits comes first.
-/

set_option autoImplicit false

namespace ItemScoring

open Binary64

/-! ## Integers that are rounded alike -/

/-- No other integer is rounded to an integer of less than 54 digits. -/
theorem Binary64.nearest_eq_nearest_iff {m n : Int} (small : n.natAbs < 2 * leastNormal) :
    nearest m = nearest n ↔ m = n := by
  refine ⟨fun same => ?_, congrArg nearest⟩
  rw [nearest_of_le small.le] at same
  rcases Nat.lt_or_ge (2 * leastNormal) m.natAbs with great | le
  · -- Rounding keeps the order, so a greater magnitude is not rounded below the limit.
    have limit : nearest (2 * leastNormal : Nat) = (2 * leastNormal : Nat) := nearest_of_le le_rfl
    have limit' : nearest (-(2 * leastNormal : Nat)) = -(2 * leastNormal : Nat) :=
      nearest_of_le (by omega)
    rcases lt_or_ge m 0 with negative | positive
    · have low := nearest_mono (m := m) (n := -(2 * leastNormal : Nat)) (by omega)
      omega
    · have high := nearest_mono (m := (2 * leastNormal : Nat)) (n := m) (by omega)
      omega
  · rwa [nearest_of_le le] at same

namespace LookupTable

/-- The first element that passes a test passes a stronger one exactly when both tests find the
same. -/
theorem find?_eq_find?_iff {α : Type} {p q : α → Bool} (stronger : ∀ a, q a = true → p a = true)
    (as : List α) : as.find? p = as.find? q ↔ ∀ a, as.find? p = some a → q a = true := by
  induction as with
  | nil => simp
  | cons a rest ih =>
      cases hq : q a with
      | true => simp [stronger a hq, hq]
      | false =>
          cases hp : p a with
          | true =>
              rw [List.find?_cons_of_pos hp, List.find?_cons_of_neg (by simp [hq])]
              refine iff_of_false (fun same => ?_) fun all => ?_
              · have passes := List.find?_some same.symm
                rw [hq] at passes
                cases passes
              · have passes := all a rfl
                rw [hq] at passes
                cases passes
          | false =>
              rw [List.find?_cons_of_neg (by simp [hp]), List.find?_cons_of_neg (by simp [hq])]
              exact ih

/-- The target of the entry that is found, or else the default. -/
def targetOf (defaultValue : Option Scalar) (found : Option MatchEntry) : Option Scalar :=
  found.elim defaultValue fun entry => some entry.target

/-- An integer is looked up as the nearest integer with 53 digits. -/
theorem lookup_integer (defaultValue : Option Scalar) (entries : List MatchEntry) (n : Int64) :
    (exact defaultValue entries).lookup (some (ofInteger n.toInt)) = targetOf defaultValue
      (entries.find? fun entry => nearest entry.source.toInt = nearest n.toInt) := by
  have test : (fun entry : MatchEntry => ofInteger entry.source.toInt == ofInteger n.toInt) =
      fun entry => decide (nearest entry.source.toInt = nearest n.toInt) := by
    funext entry
    rw [Bool.eq_iff_iff, decide_eq_true_iff]
    exact ofInteger_beq_iff (Comparison.natAbs_toInt_lt _) (Comparison.natAbs_toInt_lt _)
  rw [lookup]
  dsimp only [Option.bind_some]
  rw [test]
  cases entries.find? _ <;> rfl

end LookupTable

namespace Engine

theorem sourceNumber_integer {w : Value} {n : Int64} (integer : w.single? = some (.integer n)) :
    sourceNumber (some w) = some (ofInteger n.toInt) := by
  have number := isNaN_ofInteger (Comparison.natAbs_toInt_lt n)
  have read : ((some w).bind Value.single?).bind Scalar.number? = some (ofInteger n.toInt) := by
    rw [Option.bind_some, integer]
    rfl
  rw [sourceNumber, read, Option.filter_some, number]
  rfl

/-- A lookup of an integer stores the target of the first entry whose key is rounded alike, or else
the default. That is the first entry with that integer for a key exactly when its key is that
integer, as it always is for an integer of less than 54 digits. A target of the declared kind is
stored as it is. -/
theorem execute_lookup_integer {g : Engine} {s : Session} {place : Nat} {id : String}
    {e : Expression} {v : Variable} {defaultValue : Option Scalar} {entries : List MatchEntry}
    {w : Value} {n : Int64}
    (found : s.find? id = some v) (table : v.lookupTable = some (.exact defaultValue entries))
    (value : g.evaluate place e s = .ok (some w)) (integer : w.single? = some (.integer n)) :
    let near := entries.find? fun entry => nearest entry.source.toInt = nearest n.toInt
    let same := entries.find? fun entry => entry.source = n
    let stores := fun entry => g.execute place (.lookupOutcome id e) s =
      .ok .proceed (s.store id (v.ofTarget (LookupTable.targetOf defaultValue entry)))
    stores near ∧ (near = same ↔ ∀ entry, near = some entry → entry.source = n) ∧
      (n.toInt.natAbs < 2 ^ 53 → stores same) ∧
      ∀ t, (∀ b, v.baseType = some b → t.fits b = true) → v.ofTarget (some t) = .single t := by
  intro near same stores
  have stored : stores near := by
    unfold stores execute
    refine assign_eq_ok.2 ⟨_, lookedUp_eq_ok.2 ⟨v, _, _, found, table, value, ?_⟩, rfl, rfl⟩
    rw [sourceNumber_integer integer, LookupTable.lookup_integer]
  refine ⟨stored, ?_, fun small => ?_, fun t fits => ?_⟩
  · have test := LookupTable.find?_eq_find?_iff
      (p := fun entry : MatchEntry => nearest entry.source.toInt = nearest n.toInt)
      (q := fun entry => entry.source = n) (by simp +contextual) entries
    simpa only [decide_eq_true_iff] using test
  · have alike : near = same := by
      refine congrArg (fun p => entries.find? p) (funext fun entry => ?_)
      rw [decide_eq_decide, nearest_eq_nearest_iff small, Int64.toInt_inj]
    rwa [alike] at stored
  · cases base : v.baseType with
    | none => rw [Variable.ofTarget, base]; rfl
    | some b => rw [Variable.ofTarget, base, Option.elim_some, Scalar.recast_of_fits (fits b base)]

/-- Grades for two neighbouring integers. -/
def neighbourEntries : List MatchEntry :=
  [⟨9007199254740992, .identifier "A"⟩, ⟨9007199254740993, .identifier "B"⟩]

/-- An outcome whose table has these grades, and an F for all other integers. -/
def neighbourGrade : Variable :=
  ⟨"GRADE", .single, some .identifier, .null, .null, .null, none, none,
    some (.exact (some (.identifier "F")) neighbourEntries)⟩

/-- The lookup of the second integer stores the grade of the first one. -/
theorem lookup_finds_neighbour :
    let s := Session.empty.declare neighbourGrade
    let e := Expression.integerLiteral "9007199254740993"
    standard.evaluate 0 e s = .ok (some (.integer 9007199254740993)) ∧
      (neighbourEntries.find? fun entry => entry.source = 9007199254740993) =
        some ⟨9007199254740993, .identifier "B"⟩ ∧
      standard.execute 0 (.lookupOutcome "GRADE" e) s =
        .ok .proceed (s.store "GRADE" (.single (.identifier "A"))) := by
  intro s e
  have value : standard.evaluate 0 e s = .ok (some (.integer 9007199254740993)) := rfl
  have merged : nearest (Int64.toInt 9007199254740992) =
      nearest (Int64.toInt 9007199254740993) := by decide +kernel
  have first : (neighbourEntries.find? fun entry =>
      nearest entry.source.toInt = nearest (Int64.toInt 9007199254740993)) =
        some ⟨9007199254740992, .identifier "A"⟩ := List.find?_cons_of_pos (decide_eq_true merged)
  refine ⟨value, rfl, ?_⟩
  unfold execute
  refine assign_eq_ok.2 ⟨_, lookedUp_eq_ok.2 ⟨neighbourGrade, _, _, rfl, rfl, value, ?_⟩, rfl, rfl⟩
  rw [sourceNumber_integer rfl, LookupTable.lookup_integer, first]
  rfl

/-- The lookup of three stores the default. -/
theorem lookup_finds_nothing :
    let s := Session.empty.declare neighbourGrade
    standard.execute 0 (.lookupOutcome "GRADE" (.integerLiteral "3")) s =
      .ok .proceed (s.store "GRADE" (.single (.identifier "F"))) := by
  intro s
  have value : standard.evaluate 0 (.integerLiteral "3") s = .ok (some (.integer 3)) := rfl
  have found : s.find? "GRADE" = some neighbourGrade := rfl
  exact (execute_lookup_integer found rfl value rfl).2.2.1 (by decide)

end Engine

end ItemScoring
