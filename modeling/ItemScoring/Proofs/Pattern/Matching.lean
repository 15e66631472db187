import Mathlib.Logic.Function.Iterate
import Mathlib.Order.Nat
import ItemScoring.Pattern.Matching

/-!
# What an expression matches

A regular expression is given a meaning of its own here: the places of a text that it leads to from
a place, one case per kind of expression, where a repetition may take any number of rounds within
its bounds. What is computed on sets of places is that relation. The one thing that has to be argued
is that an unbounded repetition is done after as many rounds as there are places: no expression
leads back, so that rounds that stay where they are can be left out, and the others use up the text.
-/

set_option autoImplicit false

namespace ItemScoring.Pattern

/-- A relation that leads from one place to another in exactly a number of rounds. -/
def Rounds (R : Nat → Nat → Prop) : Nat → Nat → Nat → Prop
  | 0, i, j => i = j
  | n + 1, i, j => ∃ k, R i k ∧ Rounds R n k j

/-- The character before a place of a text. -/
def before (text : List Char) : Nat → Option Char
  | 0 => none
  | i + 1 => text[i]?

/-- Whether an expression leads from one place of a text to another. Where bounds are the wrong way
round, which no pattern says, the lower one counts. -/
def Regex.Leads (text : List Char) : Regex → Nat → Nat → Prop
  | .empty, i, j => i = j
  | .char s, i, j => j = i + 1 ∧ ∃ c, text[i]? = some c ∧ s.mem c = true
  | .look l, i, j => i = j ∧ l.holds (before text i) text[i]? = true
  | .append p q, i, j => ∃ k, p.Leads text i k ∧ q.Leads text k j
  | .either p q, i, j => p.Leads text i j ∨ q.Leads text i j
  | .repeated least most p, i, j =>
    ∃ n, least ≤ n ∧ (∀ m, most = some m → n ≤ max least m) ∧
      Rounds (fun i j => p.Leads text i j) n i j

/-! ### Rounds -/

section Rounds

variable {R : Nat → Nat → Prop}

theorem rounds_add (m n : Nat) {i j : Nat} :
    Rounds R (m + n) i j ↔ ∃ k, Rounds R m i k ∧ Rounds R n k j := by
  induction m generalizing i with
  | zero => simp [Rounds]
  | succ m ih =>
      rw [Nat.succ_add]
      simp only [Rounds, ih]
      constructor
      · rintro ⟨x, first, k, rest, last⟩
        exact ⟨k, ⟨x, first, rest⟩, last⟩
      · rintro ⟨k, ⟨x, first, rest⟩, last⟩
        exact ⟨x, first, k, rest, last⟩

/-- Rounds of a relation that does not lead back do not lead back. -/
theorem Rounds.le (forward : ∀ i j, R i j → i ≤ j) {n i j : Nat} (rounds : Rounds R n i j) :
    i ≤ j := by
  induction n generalizing i with
  | zero => exact Nat.le_of_eq rounds
  | succ n ih =>
      obtain ⟨k, first, rest⟩ := rounds
      exact (forward i k first).trans (ih rest)

/-- Rounds of a relation that does not leave a text do not leave it. -/
theorem Rounds.inside {size : Nat} (inside : ∀ i j, R i j → i ≤ size → j ≤ size) {n i j : Nat}
    (rounds : Rounds R n i j) (start : i ≤ size) : j ≤ size := by
  induction n generalizing i with
  | zero => exact rounds ▸ start
  | succ n ih =>
      obtain ⟨k, first, rest⟩ := rounds
      exact ih rest (inside i k first start)

/-- A relation that does not lead back needs no more rounds than the number of places it passes:
rounds that stay where they are can be left out. -/
theorem Rounds.few (forward : ∀ i j, R i j → i ≤ j) {n i j : Nat} (rounds : Rounds R n i j) :
    ∃ k, k ≤ j - i ∧ k ≤ n ∧ Rounds R k i j := by
  induction n generalizing i with
  | zero => exact ⟨0, Nat.zero_le _, le_rfl, rounds⟩
  | succ n ih =>
      obtain ⟨x, first, rest⟩ := rounds
      obtain ⟨k, short, fewer, rounds⟩ := ih rest
      have ahead := forward i x first
      have end_ahead := rounds.le forward
      by_cases stays : i = x
      · exact ⟨k, by omega, by omega, stays ▸ rounds⟩
      · exact ⟨k + 1, by omega, by omega, x, first, rounds⟩

end Rounds

/-! ### Expressions do not lead back -/

theorem Regex.Leads.le {text : List Char} {r : Regex} {i j : Nat} (leads : r.Leads text i j) :
    i ≤ j := by
  induction r generalizing i j with
  | empty => exact Nat.le_of_eq leads
  | char s => exact leads.1 ▸ Nat.le_succ i
  | look l => exact Nat.le_of_eq leads.1
  | append p q ihp ihq =>
      obtain ⟨k, first, second⟩ := leads
      exact (ihp first).trans (ihq second)
  | either p q ihp ihq => exact leads.elim ihp ihq
  | repeated least most p ih =>
      obtain ⟨n, -, -, rounds⟩ := leads
      exact rounds.le fun _ _ => ih

/-- An expression does not lead out of the text. -/
theorem Regex.Leads.inside {text : List Char} {r : Regex} {i j : Nat} (leads : r.Leads text i j)
    (start : i ≤ text.length) : j ≤ text.length := by
  induction r generalizing i j with
  | empty => exact leads ▸ start
  | char s =>
      obtain ⟨rfl, c, there, -⟩ := leads
      exact (List.getElem?_eq_some_iff.mp there).1
  | look l => exact leads.1 ▸ start
  | append p q ihp ihq =>
      obtain ⟨k, first, second⟩ := leads
      exact ihq second (ihp first start)
  | either p q ihp ihq => exact leads.elim (fun h => ihp h start) fun h => ihq h start
  | repeated least most p ih =>
      obtain ⟨n, -, -, rounds⟩ := leads
      exact rounds.inside (fun _ _ => ih) start

/-! ### Sets of places -/

/-- A function on the places of a text leads where a relation leads. -/
def Realizes (text : List Char) (f : Places → Places) (R : Nat → Nat → Prop) : Prop :=
  ∀ places : Places, places.length = text.length + 1 →
    (f places).length = text.length + 1 ∧
      ∀ j, (f places)[j]? = some true ↔ ∃ i, places[i]? = some true ∧ R i j

theorem Places.length_union {a b : Places} (same : a.length = b.length) :
    (a.union b).length = a.length := by
  rw [Places.union, List.length_zipWith, same, Nat.min_self]

theorem Places.getElem?_union {a b : Places} (same : a.length = b.length) (j : Nat) :
    (a.union b)[j]? = some true ↔ a[j]? = some true ∨ b[j]? = some true := by
  rw [Places.union, List.getElem?_zipWith]
  rcases Nat.lt_or_ge j a.length with short | long
  · rw [List.getElem?_eq_getElem short, List.getElem?_eq_getElem (same ▸ short)]
    simp
  · rw [List.getElem?_eq_none long, List.getElem?_eq_none (same ▸ long)]
    simp

section Realizes

variable {text : List Char} {f g : Places → Places} {R S : Nat → Nat → Prop}

theorem Realizes.id (text : List Char) : Realizes text (fun places => places) (fun i j => i = j) :=
  fun _ size => ⟨size, fun j => ⟨fun here => ⟨j, here, rfl⟩, fun ⟨_, here, same⟩ => same ▸ here⟩⟩

theorem Realizes.comp (hf : Realizes text f R) (hg : Realizes text g S) :
    Realizes text (fun places => g (f places)) (fun i j => ∃ k, R i k ∧ S k j) := by
  intro places size
  obtain ⟨middle, first⟩ := hf places size
  obtain ⟨last, second⟩ := hg (f places) middle
  refine ⟨last, fun j => ?_⟩
  rw [second]
  constructor
  · rintro ⟨k, there, onward⟩
    obtain ⟨i, here, leads⟩ := (first k).mp there
    exact ⟨i, here, k, leads, onward⟩
  · rintro ⟨i, here, k, leads, onward⟩
    exact ⟨k, (first k).mpr ⟨i, here, leads⟩, onward⟩

theorem Realizes.union (hf : Realizes text f R) (hg : Realizes text g S) :
    Realizes text (fun places => (f places).union (g places)) (fun i j => R i j ∨ S i j) := by
  intro places size
  obtain ⟨left, first⟩ := hf places size
  obtain ⟨right, second⟩ := hg places size
  refine ⟨(Places.length_union (left.trans right.symm)).trans left, fun j => ?_⟩
  rw [Places.getElem?_union (left.trans right.symm), first, second, ← exists_or]
  exact exists_congr fun i => and_or_left.symm

theorem Realizes.iterate (hf : Realizes text f R) (n : Nat) :
    Realizes text f^[n] (Rounds R n) := by
  induction n with
  | zero => exact Realizes.id text
  | succ n ih => exact hf.comp ih

/-- A relation may be put in other words. -/
theorem Realizes.congr (hf : Realizes text f R)
    (same : ∀ i j, i ≤ text.length → (R i j ↔ S i j)) : Realizes text f S := by
  intro places size
  obtain ⟨still, leads⟩ := hf places size
  refine ⟨still, fun j => (leads j).trans (exists_congr fun i => and_congr_right fun here => ?_)⟩
  have inside := (List.getElem?_eq_some_iff.mp here).1
  exact same i j (by omega)

end Realizes

/-! ### Repetition -/

/-- Repeating until nothing changes is repeating as often as asked. -/
theorem stepTimes_eq (step : Places → Places) (n : Nat) (places : Places) :
    stepTimes step n places = step^[n] places := by
  induction n generalizing places with
  | zero => rfl
  | succ n ih =>
      rw [stepTimes]
      by_cases fixed : step places = places
      · rw [if_pos fixed, Function.iterate_fixed fixed]
      · rw [if_neg fixed, ih, Function.iterate_succ_apply]

/-- Collecting until there is nothing new is collecting as often as asked. -/
theorem collect_eq (step : Places → Places) (n : Nat) (places : Places) :
    collect step n places = (fun a : Places => a.union (step a))^[n] places := by
  induction n generalizing places with
  | zero => rfl
  | succ n ih =>
      rw [collect]
      by_cases fixed : places.union (step places) = places
      · rw [if_pos fixed, Function.iterate_fixed fixed]
      · rw [if_neg fixed, ih, Function.iterate_succ_apply]

/-- Rounds that may also stay where they are lead where some number of the others leads. -/
theorem rounds_or_stay {R : Nat → Nat → Prop} (n : Nat) {i j : Nat} :
    Rounds (fun i j => i = j ∨ R i j) n i j ↔ ∃ k, k ≤ n ∧ Rounds R k i j := by
  induction n generalizing i with
  | zero => simp [Rounds]
  | succ n ih =>
      simp only [Rounds, ih]
      constructor
      · rintro ⟨x, rfl | first, k, few, rest⟩
        · exact ⟨k, by omega, rest⟩
        · exact ⟨k + 1, by omega, x, first, rest⟩
      · rintro ⟨k, few, rounds⟩
        cases k with
        | zero => exact ⟨i, Or.inl rfl, 0, Nat.zero_le n, rounds⟩
        | succ k =>
            obtain ⟨x, first, rest⟩ := rounds
            exact ⟨x, Or.inr first, k, by omega, rest⟩

/-- A repetition is computed by taking the rounds it needs and collecting what the further ones lead
to. Without an upper bound, as many as there are places are enough. -/
theorem Realizes.repeated {text : List Char} {f : Places → Places} {R : Nat → Nat → Prop}
    (hf : Realizes text f R) (forward : ∀ i j, R i j → i ≤ j)
    (inside : ∀ i j, R i j → i ≤ text.length → j ≤ text.length) (least : Nat)
    (most : Option Nat) :
    Realizes text
      (fun places =>
        collect f (most.elim (text.length + 1) (· - least)) (stepTimes f least places))
      (fun i j => ∃ n, least ≤ n ∧ (∀ m, most = some m → n ≤ max least m) ∧ Rounds R n i j) := by
  have further := ((Realizes.id text).union hf).iterate (most.elim (text.length + 1) (· - least))
  have all := (hf.iterate least).comp further
  simp only [collect_eq, stepTimes_eq]
  refine all.congr fun i j start => ?_
  simp only [rounds_or_stay]
  constructor
  · rintro ⟨x, needed, k, few, rest⟩
    refine ⟨least + k, Nat.le_add_right least k, ?_, (rounds_add least k).mpr ⟨x, needed, rest⟩⟩
    rintro m rfl
    rw [Option.elim_some] at few
    omega
  · rintro ⟨n, enough, bounded, rounds⟩
    obtain ⟨further, rfl⟩ := Nat.exists_eq_add_of_le enough
    obtain ⟨x, needed, rest⟩ := (rounds_add least further).mp rounds
    -- The rounds that stay where they are go, and each of the others uses up a character.
    obtain ⟨k, short, fewer, rest⟩ := rest.few forward
    refine ⟨x, needed, k, ?_, rest⟩
    cases most with
    | none =>
        have last := rest.inside inside (needed.inside inside start)
        rw [Option.elim_none]
        omega
    | some m =>
        have bounded := bounded m rfl
        rw [Option.elim_some]
        omega

/-! ### Characters and conditions -/

theorem realizes_char (text : List Char) (s : CharSet) :
    Realizes text (Regex.ends text (.char s)) (Regex.Leads text (.char s)) := by
  intro places size
  refine ⟨by simp [Regex.ends, size], fun j => ?_⟩
  cases j with
  | zero => simp [Regex.ends, Regex.Leads]
  | succ j =>
      rw [Regex.ends, List.getElem?_cons_succ, List.getElem?_zipWith]
      simp only [Regex.Leads, Nat.succ.injEq]
      constructor
      · intro there
        cases place : places[j]? with
        | none => simp [place] at there
        | some here =>
            cases char : text[j]? with
            | none => simp [place, char] at there
            | some c =>
                have both : here = true ∧ s.mem c = true := by simpa [place, char] using there
                exact ⟨j, both.1 ▸ place, rfl, c, char, both.2⟩
      · rintro ⟨i, here, rfl, c, char, member⟩
        simp [here, char, member]

theorem getElem?_surroundings (text : List Char) {i : Nat} (inside : i ≤ text.length) :
    (surroundings text)[i]? = some (before text i, text[i]?) := by
  have after : (text.map some ++ [none])[i]? = some text[i]? := by
    rcases Nat.lt_or_eq_of_le inside with short | rfl
    · rw [List.getElem?_append_left (by simpa using short), List.getElem?_map,
        List.getElem?_eq_getElem short]
      rfl
    · rw [List.getElem?_append_right (by simp)]
      simp
  have front : (none :: text.map some)[i]? = some (before text i) := by
    cases i with
    | zero => rfl
    | succ i =>
        rw [List.getElem?_cons_succ, List.getElem?_map, before, List.getElem?_eq_getElem inside]
        rfl
  rw [surroundings, List.getElem?_zip_eq_some]
  exact ⟨front, after⟩

theorem realizes_look (text : List Char) (l : Look) :
    Realizes text (Regex.ends text (.look l)) (Regex.Leads text (.look l)) := by
  intro places size
  refine ⟨by simp [Regex.ends, surroundings, size], fun j => ?_⟩
  rw [Regex.ends, List.getElem?_zipWith]
  simp only [Regex.Leads]
  constructor
  · intro there
    cases place : places[j]? with
    | none => simp [place] at there
    | some here =>
        have inside := (List.getElem?_eq_some_iff.mp place).1
        rw [place, getElem?_surroundings text (by omega)] at there
        have both : here = true ∧ l.holds (before text j) text[j]? = true := by
          simpa using there
        exact ⟨j, both.1 ▸ place, rfl, both.2⟩
  · rintro ⟨i, here, rfl, holds⟩
    have inside := (List.getElem?_eq_some_iff.mp here).1
    rw [here, getElem?_surroundings text (by omega)]
    simp [holds]

/-! ### Matching -/

/-- The places that are computed are those that the expression leads to. -/
theorem Regex.realizes_ends (text : List Char) (r : Regex) :
    Realizes text (r.ends text) (r.Leads text) := by
  induction r with
  | empty => exact Realizes.id text
  | char s => exact realizes_char text s
  | look l => exact realizes_look text l
  | append p q ihp ihq => exact ihp.comp ihq
  | either p q ihp ihq => exact ihp.union ihq
  | repeated least most p ih =>
      exact ih.repeated (fun _ _ => Regex.Leads.le) (fun _ _ => Regex.Leads.inside) least most

/-- An expression matches in a text when it leads from some place of it to another. -/
theorem Regex.matchesIn_iff (r : Regex) (text : List Char) :
    r.matchesIn text = true ↔ ∃ i j, i ≤ text.length ∧ r.Leads text i j := by
  obtain ⟨-, leads⟩ := r.realizes_ends text (List.replicate (text.length + 1) true) (by simp)
  rw [Regex.matchesIn, List.any_eq_true]
  constructor
  · rintro ⟨found, there, rfl⟩
    obtain ⟨j, there⟩ := List.mem_iff_getElem?.mp there
    obtain ⟨i, here, path⟩ := (leads j).mp there
    exact ⟨i, j, by simpa [List.getElem?_replicate, Nat.lt_succ_iff] using here, path⟩
  · rintro ⟨i, j, start, path⟩
    have there := (leads j).mpr ⟨i, List.getElem?_replicate_of_lt (Nat.lt_succ_of_le start), path⟩
    exact ⟨true, List.mem_of_getElem? there, rfl⟩

/-- Put between the conditions that nothing comes before and after, an expression leads from the
beginning of the text to its end, if it leads there alone. -/
theorem Regex.leads_anchored (r : Regex) (text : List Char) {i j : Nat}
    (start : i ≤ text.length) :
    (Regex.append (.look .start) (.append r (.append (.look .finish) .empty))).Leads text i j ↔
      i = 0 ∧ j = text.length ∧ r.Leads text i j := by
  simp only [Regex.Leads, Look.holds]
  constructor
  · rintro ⟨a, ⟨rfl, first⟩, b, path, c, ⟨rfl, last⟩, rfl⟩
    have at_start : i = 0 := by
      cases i with
      | zero => rfl
      | succ i =>
          rw [before, List.getElem?_eq_getElem start] at first
          cases first
    have at_end : b = text.length := by
      have inside := path.inside start
      have long := List.getElem?_eq_none_iff.mp (Option.isNone_iff_eq_none.mp last)
      omega
    exact ⟨at_start, at_end, path⟩
  · rintro ⟨rfl, rfl, path⟩
    exact ⟨0, ⟨rfl, rfl⟩, text.length, path, text.length, ⟨rfl, by simp⟩, rfl⟩

end ItemScoring.Pattern
