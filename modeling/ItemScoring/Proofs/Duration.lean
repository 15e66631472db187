import Mathlib.Data.List.Basic
import ItemScoring.Duration.Reader
import ItemScoring.Proofs.Results

/-!
# The grammar of durations

What follows the letter `P` of a duration is a list of components, each a number and a designator:
those of days first, then, after the letter `T`, those of the time of day. The reader goes through
the text once, with the number that is being read and marks for what has been seen. It accepts
exactly the texts of the grammar, and every other one is malformed.
-/

set_option autoImplicit false

namespace ItemScoring.Duration

/-! ## The grammar -/

/-- The signs that divide the whole part of a number from its fraction. -/
def isPoint (c : Char) : Bool := c = '.' || c = ','

/-- The characters of numbers. -/
def isNumberChar (c : Char) : Bool := c.isDigit || isPoint c

/-- A number of units: digits, with at most one point among them or at an end. -/
structure IsAmount (cs : List Char) : Prop where
  chars : ∀ c ∈ cs, isNumberChar c = true
  points : cs.countP isPoint ≤ 1
  digit : ∃ c ∈ cs, c.isDigit = true

/-- The designators before and after the mark of time. -/
def designators (afterTime : Bool) : List Char :=
  if afterTime then ['H', 'M', 'S'] else ['Y', 'M', 'W', 'D']

/-- Components, each a number and one of the designators. -/
inductive Components (afterTime : Bool) : List Char → Prop where
  | nil : Components afterTime []
  | cons {number rest : List Char} {d : Char} (amount : IsAmount number)
      (designator : d ∈ designators afterTime) (others : Components afterTime rest) :
      Components afterTime (number ++ d :: rest)

/-- What follows the letter `P`: components of days, and then, perhaps, the mark of time with at
least one component of the time of day. There is at least one component in all. -/
def IsComponents (cs : List Char) : Prop :=
  ∃ days times, cs = days ++ times ∧ Components false days ∧
    (times = [] ∧ days ≠ [] ∨ ∃ rest, times = 'T' :: rest ∧ Components true rest ∧ rest ≠ [])

/-- The same grammar from left to right: what may follow a component or the mark of time. It may be
nothing when `enough` has been read. -/
inductive Completes : (afterTime enough : Bool) → List Char → Prop where
  | done {afterTime : Bool} : Completes afterTime true []
  | component {afterTime enough : Bool} {number rest : List Char} {d : Char}
      (amount : IsAmount number) (designator : d ∈ designators afterTime)
      (others : Completes afterTime true rest) : Completes afterTime enough (number ++ d :: rest)
  | time {enough : Bool} {rest : List Char} (times : Completes true false rest) :
      Completes false enough ('T' :: rest)

theorem completes_true_iff {enough : Bool} {cs : List Char} :
    Completes true enough cs ↔ Components true cs ∧ (cs = [] → enough = true) := by
  constructor
  · intro h
    generalize later : true = afterTime at h
    induction h with
    | done => exact ⟨.nil, fun _ => later⟩
    | component amount designator others ih =>
        exact ⟨.cons amount designator (ih later).1, by simp⟩
    | time times => cases later
  · rintro ⟨components, empty⟩
    induction components generalizing enough with
    | nil =>
        rw [empty rfl]
        exact .done
    | cons amount designator others ih => exact .component amount designator (ih fun _ => rfl)

theorem completes_false_iff {enough : Bool} {cs : List Char} :
    Completes false enough cs ↔ ∃ days times, cs = days ++ times ∧ Components false days ∧
      (times = [] ∧ (days = [] → enough = true) ∨
        ∃ rest, times = 'T' :: rest ∧ Components true rest ∧ rest ≠ []) := by
  constructor
  · intro h
    generalize before : false = afterTime at h
    induction h with
    | done => exact ⟨[], [], rfl, .nil, .inl ⟨rfl, fun _ => rfl⟩⟩
    | @component _ _ number rest d amount designator others ih =>
        subst before
        obtain ⟨days, times, rfl, components, ends⟩ := ih rfl
        refine ⟨number ++ d :: days, times, by simp, .cons amount designator components, ?_⟩
        exact ends.imp (fun h => ⟨h.1, by simp⟩) id
    | @time _ rest times =>
        obtain ⟨components, empty⟩ := completes_true_iff.1 times
        have some : rest ≠ [] := fun none => Bool.noConfusion (empty none)
        exact ⟨[], 'T' :: rest, rfl, .nil, .inr ⟨rest, rfl, components, some⟩⟩
  · rintro ⟨days, times, rfl, components, ends⟩
    induction components generalizing enough with
    | nil =>
        rcases ends with ⟨rfl, empty⟩ | ⟨rest, rfl, components, some⟩
        · rw [empty rfl]
          exact .done
        · exact .time (completes_true_iff.2 ⟨components, fun none => absurd none some⟩)
    | @cons number rest d amount designator others ih =>
        rw [List.append_assoc, List.cons_append]
        exact .component amount designator (ih (ends.imp (fun h => ⟨h.1, fun _ => rfl⟩) id))

/-- Nothing has been read after the letter `P`. -/
theorem completes_start_iff {cs : List Char} : Completes false false cs ↔ IsComponents cs := by
  rw [completes_false_iff]
  simp [IsComponents]

/-! ## Splitting a text of the grammar -/

theorem not_isNumberChar_of_designator {afterTime : Bool} {d : Char}
    (h : d ∈ designators afterTime) : isNumberChar d = false := by
  have each : (designators afterTime).all (!isNumberChar ·) = true := by
    cases afterTime <;> decide
  simpa using List.all_eq_true.1 each d h

/-- A number ends where the first other character stands. -/
theorem number_unique {number number' rest rest' : List Char} {c d : Char}
    (chars : ∀ a ∈ number, isNumberChar a = true) (chars' : ∀ a ∈ number', isNumberChar a = true)
    (hc : isNumberChar c = false) (hd : isNumberChar d = false)
    (same : number ++ c :: rest = number' ++ d :: rest') :
    number = number' ∧ c = d ∧ rest = rest' := by
  induction number generalizing number' with
  | nil =>
      cases number' with
      | nil =>
          cases same
          exact ⟨rfl, rfl, rfl⟩
      | cons a others =>
          cases same
          rw [chars' _ List.mem_cons_self] at hc
          cases hc
  | cons a others ih =>
      cases number' with
      | nil =>
          cases same
          rw [chars _ List.mem_cons_self] at hd
          cases hd
      | cons b others' =>
          obtain ⟨rfl, further⟩ := List.cons.inj same
          obtain ⟨rfl, ends⟩ :=
            ih (List.forall_mem_cons.1 chars).2 (List.forall_mem_cons.1 chars').2 further
          exact ⟨rfl, ends⟩

section Split

variable {afterTime enough : Bool} {number cs : List Char}
  (chars : ∀ c ∈ number, isNumberChar c = true)
include chars

/-- A text may end after a component only. -/
theorem completes_number_iff :
    Completes afterTime enough number ↔ number = [] ∧ enough = true := by
  constructor
  · intro h
    cases h with
    | done => exact ⟨rfl, rfl⟩
    | @component _ _ number rest d amount designator others =>
        have other := not_isNumberChar_of_designator designator
        rw [chars d (by simp)] at other
        cases other
    | time times => cases chars 'T' List.mem_cons_self
  · rintro ⟨rfl, rfl⟩
    exact .done

/-- The character after a number is its designator, unless it is the mark of time. -/
theorem completes_designator_iff {c : Char} (other : isNumberChar c = false)
    (notMark : ¬ (c = 'T' ∧ afterTime = false ∧ number = [])) :
    Completes afterTime enough (number ++ c :: cs) ↔
      IsAmount number ∧ c ∈ designators afterTime ∧ Completes afterTime true cs := by
  constructor
  · intro h
    generalize whole : number ++ c :: cs = text at h
    cases h with
    | done => simp at whole
    | component amount designator others =>
        obtain ⟨rfl, rfl, rfl⟩ := number_unique chars amount.chars other
          (not_isNumberChar_of_designator designator) whole
        exact ⟨amount, designator, others⟩
    | time times =>
        have noChars : ∀ a ∈ ([] : List Char), isNumberChar a = true := List.forall_mem_nil _
        obtain ⟨rfl, rfl, rfl⟩ := number_unique chars noChars other rfl whole
        exact absurd ⟨rfl, rfl, rfl⟩ notMark
  · rintro ⟨amount, designator, others⟩
    exact .component amount designator others

end Split

/-- After the mark of time come components of the time of day, and at least one. -/
theorem completes_mark_iff {enough : Bool} {cs : List Char} :
    Completes false enough ('T' :: cs) ↔ Completes true false cs := by
  constructor
  · intro h
    generalize whole : 'T' :: cs = text at h
    cases h with
    | done => cases whole
    | @component _ _ number rest d amount designator others =>
        have same : [] ++ 'T' :: cs = number ++ d :: rest := whole
        obtain ⟨rfl, -, -⟩ := number_unique (List.forall_mem_nil _) amount.chars rfl
          (not_isNumberChar_of_designator designator) same
        obtain ⟨c, mem, -⟩ := amount.digit
        cases mem
    | time times =>
        cases whole
        exact times
  · exact .time

/-! ## Numbers -/

/-- The sign under which a character of a number is kept. -/
def kept (c : Char) : Char := if c = ',' then '.' else c

theorem not_isDigit_of_isPoint {c : Char} (h : isPoint c = true) : c.isDigit = false := by
  simp only [isPoint, Bool.or_eq_true, decide_eq_true_eq] at h
  rcases h with rfl | rfl <;> rfl

theorem kept_of_isPoint {c : Char} (h : isPoint c = true) : kept c = '.' := by
  simp only [isPoint, Bool.or_eq_true, decide_eq_true_eq] at h
  rcases h with rfl | rfl <;> rfl

theorem isDigit_kept (c : Char) : (kept c).isDigit = c.isDigit := by
  by_cases comma : c = ','
  · subst comma
    rfl
  · rw [kept, if_neg comma]

theorem isPoint_kept (c : Char) : isPoint (kept c) = isPoint c := by
  by_cases comma : c = ','
  · subst comma
    rfl
  · rw [kept, if_neg comma]

theorem isNumberChar_kept (c : Char) : isNumberChar (kept c) = isNumberChar c := by
  rw [isNumberChar, isNumberChar, isDigit_kept, isPoint_kept]

theorem isAmount_iff {cs : List Char} :
    IsAmount cs ↔ (∀ c ∈ cs, isNumberChar c = true) ∧ cs.countP isPoint ≤ 1 ∧
      ∃ c ∈ cs, c.isDigit = true :=
  ⟨fun h => ⟨h.chars, h.points, h.digit⟩, fun h => ⟨h.1, h.2.1, h.2.2⟩⟩

instance (cs : List Char) : Decidable (IsAmount cs) :=
  decidable_of_iff
    (cs.all isNumberChar = true ∧ cs.countP isPoint ≤ 1 ∧ cs.any Char.isDigit = true)
    (by rw [isAmount_iff, List.all_eq_true, List.any_eq_true])

/-- A text is a number exactly when it is one with every comma written as a full stop. -/
theorem isAmount_map_kept {cs : List Char} : IsAmount (cs.map kept) ↔ IsAmount cs := by
  rw [isAmount_iff, isAmount_iff, List.forall_mem_map, List.countP_map]
  simp only [Function.comp_def, List.mem_map, exists_exists_and_eq_and, isNumberChar_kept,
    isPoint_kept, isDigit_kept]

/-- Digits and full stops only. -/
def IsPlain (cs : List Char) : Prop := ∀ c ∈ cs, c.isDigit = true ∨ c = '.'

theorem isPlain_map_kept {cs : List Char} (chars : ∀ c ∈ cs, isNumberChar c = true) :
    IsPlain (cs.map kept) := by
  refine List.forall_mem_map.2 fun c mem => ?_
  rcases Bool.or_eq_true_iff.1 (chars c mem) with digit | point
  · exact .inl ((isDigit_kept c).trans digit)
  · exact .inr (kept_of_isPoint point)

namespace IsPlain

variable {cs : List Char} (plain : IsPlain cs)
include plain

theorem isNumberChar {c : Char} (mem : c ∈ cs) : isNumberChar c = true := by
  rcases plain c mem with digit | rfl
  · exact Bool.or_eq_true_iff.2 (.inl digit)
  · rfl

/-- After a run of digits, nothing is left or a full stop comes next. -/
theorem dropWhile : cs.dropWhile Char.isDigit = [] ∨
    ∃ after, cs.dropWhile Char.isDigit = '.' :: after ∧ IsPlain after := by
  induction cs with
  | nil => exact .inl rfl
  | cons c rest ih =>
      obtain ⟨first, others⟩ := List.forall_mem_cons.1 plain
      rcases first with digit | rfl
      · rw [List.dropWhile_cons_of_pos digit]
        exact ih others
      · exact .inr ⟨rest, rfl, others⟩

end IsPlain

theorem isDigit_of_mem_takeWhile {cs : List Char} {c : Char}
    (mem : c ∈ cs.takeWhile Char.isDigit) : c.isDigit = true :=
  List.all_eq_true.1 List.all_takeWhile c mem

/-- There is no point in a run of digits. -/
theorem countP_isPoint_dropWhile (cs : List Char) :
    (cs.dropWhile Char.isDigit).countP isPoint = cs.countP isPoint := by
  have none : (cs.takeWhile Char.isDigit).countP isPoint = 0 := by
    refine List.countP_eq_zero.2 fun c mem point => ?_
    have digit := isDigit_of_mem_takeWhile mem
    rw [not_isDigit_of_isPoint point] at digit
    cases digit
  conv_rhs => rw [← List.takeWhile_append_dropWhile (p := Char.isDigit) (l := cs)]
  rw [List.countP_append, none, Nat.zero_add]

/-- There is a digit in a run of digits or in what follows it. -/
theorem exists_isDigit_iff (cs : List Char) :
    (∃ c ∈ cs, c.isDigit = true) ↔
      cs.takeWhile Char.isDigit ≠ [] ∨ ∃ c ∈ cs.dropWhile Char.isDigit, c.isDigit = true := by
  conv_lhs => rw [← List.takeWhile_append_dropWhile (p := Char.isDigit) (l := cs)]
  simp only [List.mem_append, or_and_right, exists_or]
  refine or_congr_left ⟨?_, fun some => ?_⟩
  · rintro ⟨c, mem, -⟩
    exact List.ne_nil_of_mem mem
  · obtain ⟨c, mem⟩ := List.exists_mem_of_ne_nil _ some
    exact ⟨c, mem, isDigit_of_mem_takeWhile mem⟩

/-- An unsigned numeral without an exponent is read when it has a digit and no more than one point.
-/
theorem isSome_readUnsigned?_iff {cs : List Char} (plain : IsPlain cs) :
    (Binary64.readUnsigned? cs).isSome = true ↔ IsAmount cs := by
  have chars : ∀ c ∈ cs, isNumberChar c = true := fun c mem => plain.isNumberChar mem
  rw [isAmount_iff, and_iff_right chars, ← countP_isPoint_dropWhile cs, exists_isDigit_iff cs]
  unfold Binary64.readUnsigned?
  rcases plain.dropWhile with ended | ⟨after, pointed, others⟩
  · rw [ended]
    cases cs.takeWhile Char.isDigit <;> simp [Binary64.exponentPart?]
  · rw [pointed, List.countP_cons_of_pos (by rfl), ← countP_isPoint_dropWhile after]
    have digits : (∃ c ∈ '.' :: after, c.isDigit = true) ↔ ∃ c ∈ after, c.isDigit = true := by
      simp
    rw [digits, exists_isDigit_iff after]
    rcases others.dropWhile with ended | ⟨further, pointed, -⟩
    · simp only [ended]
      cases cs.takeWhile Char.isDigit <;> cases after.takeWhile Char.isDigit <;>
        simp [Binary64.exponentPart?]
    · simp only [pointed]
      rw [List.countP_cons_of_pos (by rfl)]
      have mark : Binary64.exponentPart? ('.' :: further) = none := rfl
      rw [mark]
      constructor
      · intro h
        split at h <;> cases h
      · rintro ⟨few, -⟩
        omega

theorem toLower_of_plain {c : Char} (plain : c.isDigit = true ∨ c = '.') : c.toLower = c := by
  rcases plain with digit | rfl
  · simp only [Char.isDigit, Bool.and_eq_true, decide_eq_true_eq, ge_iff_le] at digit
    refine dif_neg fun upper => ?_
    exact absurd (UInt32.le_trans upper.1 digit.2) (by decide)
  · rfl

/-- Without a sign and without letters only an unsigned numeral is read. -/
theorem readChars?_of_isPlain {cs : List Char} (plain : IsPlain cs) :
    Binary64.readChars? cs = Binary64.signed false <$> Binary64.readUnsigned? cs := by
  have same : cs.map Char.toLower = cs := by
    conv_rhs => rw [← List.map_id cs]
    exact List.map_congr_left fun c mem => toLower_of_plain (plain c mem)
  have noWord : Binary64.readWord? cs = none := by
    have other {word : List Char} (letter : word.all (fun c => c.isDigit || c = '.') = false) :
        cs ≠ word := by
      rintro rfl
      rw [List.all_eq_false] at letter
      obtain ⟨c, mem, notPlain⟩ := letter
      exact notPlain (by simpa using plain c mem)
    unfold Binary64.readWord?
    rw [same, if_neg, if_neg]
    · exact other (by decide)
    · exact not_or.2 ⟨other (by decide), other (by decide)⟩
  unfold Binary64.readChars?
  split
  next negative body signs =>
    split at signs
    · exact absurd (plain _ List.mem_cons_self) (by decide)
    · exact absurd (plain _ List.mem_cons_self) (by decide)
    · cases signs
      rw [noWord]
      cases Binary64.readUnsigned? cs <;> rfl

/-- The number in front of a designator is read exactly when it is a number of units. -/
theorem isSome_readChars?_iff {cs : List Char} (chars : ∀ c ∈ cs, isNumberChar c = true) :
    (Binary64.readChars? (cs.map kept)).isSome = true ↔ IsAmount cs := by
  have plain := isPlain_map_kept chars
  rw [readChars?_of_isPlain plain, ← isAmount_map_kept, ← isSome_readUnsigned?_iff plain]
  cases Binary64.readUnsigned? (cs.map kept) <;> rfl

/-! ## The reader -/

theorem isSome_unit?_iff {afterTime : Bool} {c : Char} :
    (unit? afterTime c).isSome = true ↔ c ∈ designators afterTime := by
  unfold unit?
  split
  case h_8 days months weeks daysOnly hours minutes seconds =>
    cases afterTime <;> simp_all [designators]
  all_goals simp [designators]

namespace Reading

/-- Enough has been read for the text to end after a component. -/
def enough (r : Reading) : Bool := if r.afterTime then r.timeComponent else r.component

/-- What the reader knows while it reads a number, of which it has seen the given characters. -/
structure Follows (r : Reading) (number : List Char) : Prop where
  chars : ∀ c ∈ number, isNumberChar c = true
  digits : r.digits = (number.map kept).reverse
  time : r.timeComponent = true → r.afterTime = true ∧ r.component = true

theorem follows_start : start.Follows [] := ⟨List.forall_mem_nil _, rfl, nofun⟩

variable {r : Reading} {number : List Char} (follows : r.Follows number)
include follows

theorem Follows.digits_eq_nil_iff : r.digits = [] ↔ number = [] := by
  rw [follows.digits, List.reverse_eq_nil_iff, List.map_eq_nil_iff]

/-- The text may end when no number is being read and enough has been read. -/
theorem finish_iff : (∃ total, r.finish = .ok total) ↔ number = [] ∧ r.enough = true := by
  rw [← follows.digits_eq_nil_iff]
  have time := follows.time
  unfold finish enough
  cases after : r.afterTime <;> cases some : r.component <;> cases timed : r.timeComponent <;>
    by_cases none : r.digits = [] <;> simp_all

/-- A step over the mark of time. -/
theorem step_mark (before : r.afterTime = false) (none : number = []) :
    ∃ next, r.step 'T' = .ok next ∧ next.Follows [] ∧ next.afterTime = true ∧
      next.enough = false := by
  have untimed : r.timeComponent = false := by
    cases timed : r.timeComponent with
    | false => rfl
    | true =>
        rw [(follows.time timed).1] at before
        cases before
  refine ⟨{ r with afterTime := true }, ?_, ⟨List.forall_mem_nil _, ?_, ?_⟩, rfl, ?_⟩
  · exact if_pos ⟨rfl, before, follows.digits_eq_nil_iff.2 none⟩
  · exact follows.digits_eq_nil_iff.2 none
  · exact fun timed => ⟨rfl, (follows.time timed).2⟩
  · exact untimed

/-- A step over a character of a number. -/
theorem step_number {c : Char} (char : isNumberChar c = true) :
    ∃ next, r.step c = .ok next ∧ next.Follows (number ++ [c]) ∧
      next.afterTime = r.afterTime ∧ next.enough = r.enough := by
  have notMark : ¬ (c = 'T' ∧ r.afterTime = false ∧ r.digits = []) := by
    rintro ⟨rfl, -⟩
    cases char
  have accepted : c.isDigit ∨ c = '.' ∨ c = ',' := by
    simpa [isNumberChar, isPoint] using char
  refine ⟨{ r with digits := kept c :: r.digits }, ?_, ⟨?_, ?_, follows.time⟩, rfl, rfl⟩
  · exact (if_neg notMark).trans (if_pos accepted)
  · exact List.forall_mem_append.2 ⟨follows.chars, List.forall_mem_singleton.2 char⟩
  · simp [follows.digits]

/-- A step over any other character: it has to be a designator with a number in front of it. -/
theorem step_designator {c : Char} (other : isNumberChar c = false)
    (notMark : ¬ (c = 'T' ∧ r.afterTime = false ∧ number = [])) :
    (IsAmount number ∧ c ∈ designators r.afterTime ∧
      ∃ next, r.step c = .ok next ∧ next.Follows [] ∧ next.afterTime = r.afterTime ∧
        next.enough = true) ∨
    ¬ (IsAmount number ∧ c ∈ designators r.afterTime) ∧
      ∃ fault, r.step c = .error fault ∧ fault ∈ [.durationNumber, .durationDesignator] := by
  have unmarked : ¬ (c = 'T' ∧ r.afterTime = false ∧ r.digits = []) := by
    rwa [follows.digits_eq_nil_iff]
  have refused : ¬ (c.isDigit ∨ c = '.' ∨ c = ',') := by
    simpa [isNumberChar, isPoint] using other
  have number : r.digits.reverse = number.map kept := by
    rw [follows.digits, List.reverse_reverse]
  unfold step
  rw [if_neg unmarked, if_neg refused, number, ← isSome_readChars?_iff follows.chars,
    ← isSome_unit?_iff]
  cases Binary64.readChars? (_ : List Char) with
  | none => exact .inr ⟨by simp, .durationNumber, rfl, by simp⟩
  | some amount =>
      cases unit? r.afterTime c with
      | none => exact .inr ⟨by simp, .durationDesignator, rfl, by simp⟩
      | some unit =>
          refine .inl ⟨rfl, rfl, _, rfl, ⟨List.forall_mem_nil _, rfl, ?_⟩, rfl, ?_⟩
          · exact fun timed => ⟨timed, rfl⟩
          · cases after : r.afterTime <;> rfl

omit follows in
/-- The whole text is read, and may end there, exactly when it goes on as the grammar says. -/
theorem run_iff (follows : r.Follows number) (cs : List Char) :
    (∃ last total, r.run cs = .ok last ∧ last.finish = .ok total) ↔
      Completes r.afterTime r.enough (number ++ cs) := by
  -- The state goes along: the part of a number that has been read stands in front of the rest of
  -- the text, and is cut off where the first other character stands.
  induction cs generalizing r number with
  | nil =>
      rw [List.append_nil, completes_number_iff follows.chars, ← finish_iff follows]
      simp [run]
  | cons c rest ih =>
      by_cases char : isNumberChar c = true
      · obtain ⟨next, stepped, goesOn, time, enough⟩ := step_number follows char
        rw [run, stepped, ← time, ← enough, ← List.singleton_append, ← List.append_assoc]
        exact ih goesOn
      have other : isNumberChar c = false := by simpa using char
      by_cases mark : c = 'T' ∧ r.afterTime = false ∧ number = []
      · obtain ⟨rfl, before, rfl⟩ := mark
        obtain ⟨next, stepped, goesOn, time, enough⟩ := step_mark follows before rfl
        rw [run, stepped, before, List.nil_append, completes_mark_iff, ← time, ← enough]
        exact ih goesOn
      · rw [completes_designator_iff follows.chars other mark]
        rcases step_designator follows other mark with
          ⟨amount, designator, next, stepped, goesOn, time, enough⟩ | ⟨faulty, fault, stepped, -⟩
        · rw [run, stepped, and_iff_right amount, and_iff_right designator, ← time, ← enough]
          exact ih goesOn
        · rw [run, stepped, ← and_assoc]
          exact iff_of_false nofun fun h => faulty h.1

end Reading

/-- What is wrong with a text that is no list of components. -/
def componentFaults : List CastFault :=
  [.durationEmpty, .durationNumber, .durationDesignator, .durationIncomplete, .durationTime]

theorem Reading.step_fault {r : Reading} {c : Char} {fault : CastFault}
    (h : r.step c = .error fault) : fault ∈ componentFaults := by
  unfold step at h
  split at h
  · cases h
  split at h
  · cases h
  split at h
  · cases h
    decide
  split at h
  · cases h
    decide
  · cases h

theorem Reading.run_fault {r : Reading} {cs : List Char} {fault : CastFault}
    (h : r.run cs = .error fault) : fault ∈ componentFaults := by
  induction cs generalizing r with
  | nil => cases h
  | cons c rest ih =>
      rw [run] at h
      split at h
      · next stopped =>
          cases h
          exact step_fault stopped
      · exact ih h

theorem Reading.finish_fault {r : Reading} {fault : CastFault} (h : r.finish = .error fault) :
    fault ∈ componentFaults := by
  unfold finish at h
  split at h
  · cases h
    decide
  split at h
  · cases h
    decide
  · cases h

/-- The seconds of components are found exactly for the texts of the grammar. -/
theorem componentSeconds_iff (cs : List Char) :
    (∃ total, componentSeconds cs = .ok total) ↔ IsComponents cs := by
  rw [← completes_start_iff, ← List.nil_append cs]
  refine Iff.trans ?_ (Reading.run_iff Reading.follows_start cs)
  unfold componentSeconds
  rw [List.nil_append]
  split
  · next none =>
      subst none
      simp [Reading.run, Reading.finish, Reading.start]
  · cases Reading.start.run cs <;> simp

theorem componentSeconds_fault {cs : List Char} {fault : CastFault}
    (h : componentSeconds cs = .error fault) : fault ∈ componentFaults := by
  unfold componentSeconds at h
  split at h
  · cases h
    decide
  split at h
  · next stopped =>
      cases h
      exact Reading.run_fault stopped
  · exact Reading.finish_fault h

theorem inRange_cases (x : Float) :
    (∃ d, inRange x = .ok d) ∨ inRange x = .error .durationRange := by
  unfold inRange
  cases ofSeconds? x with
  | some d => exact .inl ⟨d, rfl⟩
  | none => exact .inr rfl

/-- A text with the letter `P`, after an optional sign, is a duration, or is one that is out of
range, exactly when the grammar allows what follows the letter. Every other such text is malformed.
-/
theorem read_accepts_iff {raw : String} {sign rest : List Char} (signed : sign = [] ∨ sign = ['-'])
    (text : Text.trimChars raw.toList = sign ++ 'P' :: rest) :
    (((∃ d, read raw = .ok d) ∨ read raw = .error (.cast .duration raw .durationRange)) ↔
      IsComponents rest) ∧
    (¬ IsComponents rest →
      ∃ fault ∈ componentFaults, read raw = .error (.cast .duration raw fault)) := by
  have reads : ∃ negative, readChars (Text.trimChars raw.toList) =
      componentSeconds rest >>= fun total => inRange (Binary64.signed negative total) := by
    rw [text]
    rcases signed with rfl | rfl
    · refine ⟨false, ?_⟩
      cases found : componentSeconds rest <;> simp [readChars, found] <;> rfl
    · refine ⟨true, ?_⟩
      cases found : componentSeconds rest <;> simp [readChars, found] <;> rfl
  obtain ⟨negative, reads⟩ := reads
  rw [← componentSeconds_iff]
  cases found : componentSeconds rest with
  | ok total =>
      rw [found] at reads
      change _ = inRange (Binary64.signed negative total) at reads
      refine ⟨iff_of_true ?_ ⟨total, rfl⟩, fun none => absurd ⟨total, rfl⟩ none⟩
      rcases inRange_cases (Binary64.signed negative total) with ⟨d, within⟩ | outside
      · exact .inl ⟨d, by rw [read, reads, within]⟩
      · exact .inr (by rw [read, reads, outside])
  | error fault =>
      have malformed := componentSeconds_fault found
      have reported : read raw = .error (.cast .duration raw fault) := by
        rw [read, reads, found]
        rfl
      refine ⟨iff_of_false ?_ ?_, fun _ => ⟨fault, malformed, reported⟩⟩
      · rintro (⟨d, accepted⟩ | outside)
        · cases reported.symm.trans accepted
        · cases reported.symm.trans outside
          revert malformed
          decide
      · rintro ⟨total, accepted⟩
        cases accepted

/-- A sign with blanks around the text, a comma, points at either end of a number, and the letter of
months and of minutes. -/
theorem read_accepts_all_parts :
    let raw := " -P1,5M.5W2DT3.M0H "
    let rest := "1,5M.5W2DT3.M0H".toList
    Text.trimChars raw.toList = ['-'] ++ 'P' :: rest ∧ IsComponents rest ∧
      ((∃ d, read raw = .ok d) ∨ read raw = .error (.cast .duration raw .durationRange)) := by
  intro raw rest
  have text : Text.trimChars raw.toList = ['-'] ++ 'P' :: rest := by decide +kernel
  have days : Components false
      ("1,5".toList ++ 'M' :: (".5".toList ++ 'W' :: ("2".toList ++ ['D']))) :=
    .cons (by decide +kernel) (by decide)
      (.cons (by decide +kernel) (by decide) (.cons (by decide +kernel) (by decide) .nil))
  have times : Components true ("3.".toList ++ 'M' :: ("0".toList ++ ['H'])) :=
    .cons (by decide +kernel) (by decide) (.cons (by decide +kernel) (by decide) .nil)
  have components : IsComponents rest :=
    ⟨_, _, by decide +kernel, days, .inr ⟨_, rfl, times, by decide +kernel⟩⟩
  exact ⟨text, components, (read_accepts_iff (.inr rfl) text).1.2 components⟩

end ItemScoring.Duration
