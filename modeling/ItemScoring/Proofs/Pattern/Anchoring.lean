import ItemScoring.Pattern
import ItemScoring.Proofs.Pattern.Choices
import ItemScoring.Proofs.Pattern.Matching

/-!
# Patterns between conditions

The text of a pattern is put between the conditions that nothing comes before and after by writing
it into a group. The text that is made so is a pattern of which the group is a part when three
things hold: the pattern does not end in a comment, which takes the end of the group; it is not
nested too deeply to be put into a group; and it does not close the group itself. Where the pattern
is well formed, the first two decide; where it is not, the last one alone can make the whole well
formed.
-/

set_option autoImplicit false

namespace ItemScoring.Pattern

/-- How the reading of a pattern begins. -/
def Reading.start : Reading := ⟨false, []⟩

/-- The text of a whole pattern, read as a choice. -/
def readWhole (cs : List Char) : Option ((Tree × Reading) × List Char) :=
  readPart (cs.length + 1) .start [] [] cs

/-- A pattern ends in a comment: the end of a group after it is part of the comment, and together
they are well formed. -/
def EndsInComment (pattern : List Char) : Prop :=
  (readTree (pattern ++ [')', '$'])).isSome = true

/-- A pattern is nested too deeply to be put into a group between conditions. -/
def TooDeep (pattern : List Char) : Prop :=
  ∃ t, readTree pattern = some t ∧ nestLimit < t.depth + 2

/-- A pattern has a closing parenthesis that closes no group of its own: what comes before it is
complete. -/
def ClosesTooMuch (pattern : List Char) : Prop :=
  ∃ inside outside, pattern = inside ++ ')' :: outside ∧ (readTree inside).isSome = true

/-- A pattern can be put between conditions: if it is well formed, it neither ends in a comment nor
is it nested too deeply; if it is malformed, it does not close the group that it is put into, or the
whole is malformed nevertheless. -/
structure Anchorable (pattern : List Char) : Prop where
  open_end : (compile? pattern).isSome = true → ¬EndsInComment pattern
  shallow : (compile? pattern).isSome = true → ¬TooDeep pattern
  balanced : compile? pattern = none → ClosesTooMuch pattern → compile? (anchored pattern) = none

/-- A tree between the conditions that nothing comes before and after. -/
def anchoredTree (t : Tree) : Tree :=
  .sequence [.assertion .lineStart, .group .none t, .assertion .lineEnd]

/-- An expression between the conditions that nothing comes before and after. -/
def anchoredRegex (r : Regex) : Regex :=
  .append (.look .start) (.append r (.append (.look .finish) .empty))

/-! ### Whole patterns -/

theorem readTree_eq (cs : List Char) :
    readTree cs = (readWhole cs).bind fun p =>
      if p.2 = [] ∧ p.1.1.depth ≤ nestLimit then some p.1.1 else none := by
  rw [readTree, readWhole, readPart, Reading.start]
  cases readChoice (cs.length + 1) ⟨false, []⟩ [] [] cs with
  | none => rfl
  | some p =>
      obtain ⟨t, r, rest⟩ := p
      cases rest with
      | nil => simp [regroup]
      | cons c rest => simp [regroup]

theorem readTree_eq_some {cs : List Char} {t : Tree} :
    readTree cs = some t ↔
      (∃ r, readWhole cs = some ((t, r), [])) ∧ t.depth ≤ nestLimit := by
  rw [readTree_eq, Option.bind_eq_some_iff]
  constructor
  · rintro ⟨⟨⟨u, r⟩, rest⟩, found, complete⟩
    split at complete
    next both =>
      cases complete
      exact ⟨⟨r, both.1 ▸ found⟩, both.2⟩
    · cases complete
  · rintro ⟨⟨r, found⟩, shallow⟩
    exact ⟨_, found, if_pos ⟨rfl, shallow⟩⟩

/-- The reading of a pattern between conditions: the condition before it, and then a group. -/
theorem readWhole_anchored (pattern : List Char) :
    readWhole (anchored pattern) =
      (readWhole (pattern ++ [')', '$'])).bind fun p =>
        afterClosing (readPart (pattern.length + 5) { p.1.2 with verbose := false } []
          [.group .none p.1.1, .assertion .lineStart]) p.2 := by
  have text : anchored pattern = '^' :: '(' :: '?' :: ':' :: (pattern ++ [')', '$']) := by
    simp [anchored]
  have opening : readOpening false ('?' :: ':' :: (pattern ++ [')', '$'])) =
      some (.group .none, pattern ++ [')', '$']) := rfl
  have length : (anchored pattern).length + 1 = pattern.length + 7 := by
    simp [anchored]
  have inner : readPart (pattern.length + 5) .start [] [] (pattern ++ [')', '$']) =
      readWhole (pattern ++ [')', '$']) := by
    apply readPart_fuel
    · simp
    · exact Nat.lt_succ_self _
  calc readWhole (anchored pattern)
      = readPart (pattern.length + 7) .start [] [] (anchored pattern) := by
        rw [readWhole, length]
    _ = readPart (pattern.length + 6) .start [] [.assertion .lineStart]
          ('(' :: '?' :: ':' :: (pattern ++ [')', '$'])) := by
        rw [text, readPart_succ]
        rfl
    _ = (readOpening false ('?' :: ':' :: (pattern ++ [')', '$']))).bind fun p =>
          readOpened (pattern.length + 5) .start [] [.assertion .lineStart] p.1 p.2 := by
        rw [readPart_succ]
        rfl
    _ = _ := by
        rw [opening, ← inner]
        rfl

/-- A pattern is read before the end of a group as on its own, unless it ends in a comment. -/
theorem agrees_readWhole (pattern after : List Char) :
    Agrees after pattern (readWhole pattern) (readWhole (pattern ++ ')' :: after)) := by
  refine agrees_readPart .start [] [] (Nat.lt_succ_self _) ?_
  rw [List.length_append, List.length_cons]
  omega

section Complete

variable {pattern : List Char} {t : Tree} {r : Reading}

/-- A complete pattern leaves the end of a group, or the end of the group is a part of it. -/
theorem readWhole_closing (found : readWhole pattern = some ((t, r), [])) :
    readWhole (pattern ++ [')', '$']) = some ((t, r), [')', '$']) ∨
      '#' ∈ pattern ∧ readWhole (pattern ++ [')', '$']) = some ((t, r), []) := by
  rcases agrees_readWhole pattern ['$'] with
    ⟨v, rest, hx, -, hy⟩ | ⟨v, hx, comment, -, quiet⟩ | ⟨hx, -⟩
  · cases found.symm.trans hx
    exact Or.inl hy
  · cases found.symm.trans hx
    exact Or.inr ⟨comment, quiet (by decide)⟩
  · cases found.symm.trans hx

/-- Where the end of the group is left, the whole is a condition, a group and a condition. -/
theorem readWhole_anchored_of_closing
    (closing : readWhole (pattern ++ [')', '$']) = some ((t, r), [')', '$'])) :
    readWhole (anchored pattern) = some ((anchoredTree t, { r with verbose := false }), []) := by
  rw [readWhole_anchored, closing]
  rfl

/-- Where the end of the group is not left, the group is never closed. -/
theorem readWhole_anchored_of_comment
    (comment : readWhole (pattern ++ [')', '$']) = some ((t, r), [])) :
    readWhole (anchored pattern) = none := by
  rw [readWhole_anchored, comment]
  rfl

theorem depth_anchoredTree (t : Tree) : (anchoredTree t).depth = t.depth + 2 := by
  simp [anchoredTree, Tree.depth, Tree.depths]

theorem readTree_anchored_of_deep (found : readWhole pattern = some ((t, r), []))
    (deep : nestLimit < t.depth + 2) : readTree (anchored pattern) = none := by
  rcases readWhole_closing found with closing | ⟨-, comment⟩
  · rw [readTree_eq, readWhole_anchored_of_closing closing, Option.bind_some, if_neg]
    rintro ⟨-, shallow⟩
    rw [depth_anchoredTree] at shallow
    omega
  · rw [readTree_eq, readWhole_anchored_of_comment comment]
    rfl

/-- Whether a well-formed pattern ends in a comment shows in what is left after it. -/
theorem readWhole_formed (formed : readTree pattern = some t) :
    ∃ r, (¬EndsInComment pattern ∧
        readWhole (pattern ++ [')', '$']) = some ((t, r), [')', '$'])) ∨
      EndsInComment pattern ∧ '#' ∈ pattern ∧
        readWhole (pattern ++ [')', '$']) = some ((t, r), []) := by
  obtain ⟨⟨r, found⟩, shallow⟩ := readTree_eq_some.mp formed
  refine ⟨r, (readWhole_closing found).imp (fun closing => ⟨fun comment => ?_, closing⟩)
    fun ⟨sign, ends⟩ => ⟨?_, sign, ends⟩⟩
  · obtain ⟨u, ends⟩ := Option.isSome_iff_exists.mp comment
    obtain ⟨⟨s, ends⟩, -⟩ := readTree_eq_some.mp ends
    cases closing.symm.trans ends
  · exact Option.isSome_iff_exists.mpr ⟨t, readTree_eq_some.mpr ⟨⟨r, ends⟩, shallow⟩⟩

theorem readTree_anchored (formed : readTree pattern = some t)
    (open_end : ¬EndsInComment pattern) (shallow : t.depth + 2 ≤ nestLimit) :
    readTree (anchored pattern) = some (anchoredTree t) := by
  obtain ⟨r, ⟨-, closing⟩ | ⟨comment, -⟩⟩ := readWhole_formed formed
  · exact readTree_eq_some.mpr
      ⟨⟨_, readWhole_anchored_of_closing closing⟩, (depth_anchoredTree t).symm ▸ shallow⟩
  · exact absurd comment open_end

theorem readTree_anchored_of_comment (formed : readTree pattern = some t)
    (comment : EndsInComment pattern) : readTree (anchored pattern) = none := by
  obtain ⟨r, ⟨open_end, -⟩ | ⟨-, -, ends⟩⟩ := readWhole_formed formed
  · exact absurd comment open_end
  · rw [readTree_eq, readWhole_anchored_of_comment ends]
    rfl

/-- Only a pattern with the sign of a comment in it ends in a comment. -/
theorem EndsInComment.sign (comment : EndsInComment pattern) (formed : readTree pattern = some t) :
    '#' ∈ pattern := by
  obtain ⟨r, ⟨open_end, -⟩ | ⟨-, sign, -⟩⟩ := readWhole_formed formed
  · exact absurd comment open_end
  · exact sign

end Complete

/-! ### Malformed patterns -/

/-- A pattern that leaves a closing parenthesis is complete before it. -/
theorem readWhole_before_closing {inside outside : List Char} {t : Tree} {r : Reading}
    (found : readWhole (inside ++ ')' :: outside) = some ((t, r), ')' :: outside)) :
    readWhole inside = some ((t, r), []) := by
  have beyond : ¬Within outside (readWhole (inside ++ ')' :: outside)) := fun within => by
    have short := (within _ _ found).length_le
    rw [List.length_cons] at short
    omega
  rcases agrees_readWhole inside outside with
    ⟨v, rest, hx, -, hy⟩ | ⟨-, -, -, within, -⟩ | ⟨-, within⟩
  · have same := found.symm.trans hy
    simp only [Option.some.injEq, Prod.mk.injEq] at same
    obtain ⟨value, rest_nil⟩ := same
    rw [hx, ← value, List.self_eq_append_left.mp rest_nil]
  · exact absurd within beyond
  · exact absurd within beyond

/-- A malformed pattern that makes a well-formed whole between conditions closes the group that it
is put into. -/
theorem closesTooMuch_of_readTree {pattern : List Char} {u : Tree}
    (malformed : readTree pattern = none) (formed : readTree (anchored pattern) = some u) :
    ClosesTooMuch pattern := by
  obtain ⟨⟨last, whole⟩, shallow⟩ := readTree_eq_some.mp formed
  have parts := whole
  rw [readWhole_anchored] at parts
  obtain ⟨⟨⟨t, r⟩, rest⟩, part, onward⟩ := Option.bind_eq_some_iff.mp parts
  cases found : readWhole pattern with
  | none =>
      -- What is left after the pattern is the end of the last condition at most.
      have left := (agrees_readWhole pattern ['$']).within found _ rest part
      rcases List.suffix_cons_iff.mp left with rfl | nothing
      · cases onward
      · obtain rfl := List.suffix_nil.mp nothing
        cases onward
  | some p =>
      obtain ⟨⟨t', r'⟩, left⟩ := p
      rcases readPart_left found with rfl | ⟨outside, rfl⟩
      · have deep : nestLimit < t'.depth + 2 := by
          by_contra shallow
          have formed : readTree pattern = some t' :=
            readTree_eq_some.mpr ⟨⟨r', found⟩, by omega⟩
          cases malformed.symm.trans formed
        cases formed.symm.trans (readTree_anchored_of_deep found deep)
      · obtain ⟨inside, rfl⟩ := within_readPart _ _ _ _ _ _ _ found
        refine ⟨inside, outside, rfl, Option.isSome_iff_exists.mpr ⟨t', readTree_eq_some.mpr
          ⟨⟨r', readWhole_before_closing found⟩, ?_⟩⟩⟩
        cases part.symm.trans ((agrees_readWhole _ ['$']).eq_of_left found (List.cons_ne_nil _ _))
        have bounded := (readPart_noDeeper onward).2 _ List.mem_cons_self
        exact Nat.le_trans (Nat.le_of_succ_le bounded) shallow

/-! ### Compiled patterns -/

theorem compile?_eq (pattern : List Char) :
    compile? pattern =
      (readTree pattern).bind fun t => (Flags.initial.regex? t).map fun p => p.1 := by
  rw [compile?]
  cases readTree pattern with
  | none => rfl
  | some t =>
      change (Flags.initial.regex? t).bind _ = (Flags.initial.regex? t).map _
      cases Flags.initial.regex? t <;> rfl

/-- The conditions around a group do not depend on the flags that are set inside it. -/
theorem regex?_anchoredTree (t : Tree) :
    Flags.initial.regex? (anchoredTree t) =
      (Flags.initial.regex? t).map fun p => (anchoredRegex p.1, .initial) := by
  have same : Flags.initial.apply .none = Flags.initial := rfl
  rw [anchoredTree, Flags.regex?]
  simp only [Flags.regexSequence?, Flags.regex?, Option.bind_eq_bind, Option.bind_some, same]
  cases Flags.initial.regex? t <;> rfl

section Compiled

variable {pattern : List Char} {r : Regex}

/-- A well-formed pattern that does not end in a comment and is not nested too deeply is compiled as
a part of the whole. -/
theorem compile?_anchored (compiled : compile? pattern = some r)
    (open_end : ¬EndsInComment pattern) (shallow : ¬TooDeep pattern) :
    compile? (anchored pattern) = some (anchoredRegex r) := by
  rw [compile?_eq] at compiled
  obtain ⟨t, formed, compiled⟩ := Option.bind_eq_some_iff.mp compiled
  obtain ⟨p, meaning, rfl⟩ := Option.map_eq_some_iff.mp compiled
  have whole := readTree_anchored formed open_end
    (Nat.le_of_not_lt fun deep => shallow ⟨t, formed, deep⟩)
  rw [compile?_eq, whole, Option.bind_some, regex?_anchoredTree, meaning]
  rfl

/-- Every other well-formed pattern makes the whole malformed. -/
theorem compile?_anchored_eq_none (compiled : compile? pattern = some r)
    (lost : EndsInComment pattern ∨ TooDeep pattern) : compile? (anchored pattern) = none := by
  rw [compile?_eq] at compiled ⊢
  obtain ⟨t, formed, -⟩ := Option.bind_eq_some_iff.mp compiled
  rcases lost with comment | ⟨u, found, deep⟩
  · rw [readTree_anchored_of_comment formed comment]
    rfl
  · obtain ⟨⟨_, found⟩, -⟩ := readTree_eq_some.mp found
    rw [readTree_anchored_of_deep found deep]
    rfl

/-- A malformed pattern makes the whole malformed, too, unless it closes the group that it is put
into. -/
theorem closesTooMuch_of_compile? (malformed : compile? pattern = none)
    (compiled : compile? (anchored pattern) = some r) : ClosesTooMuch pattern := by
  rw [compile?_eq] at malformed compiled
  obtain ⟨u, whole, compiled⟩ := Option.bind_eq_some_iff.mp compiled
  cases formed : readTree pattern with
  | none => exact closesTooMuch_of_readTree formed whole
  | some t =>
      -- The pattern is read, but its tree stands for nothing: no more does it as a part.
      rw [formed, Option.bind_some, Option.map_eq_none_iff] at malformed
      have open_end : ¬EndsInComment pattern := fun comment => by
        cases whole.symm.trans (readTree_anchored_of_comment formed comment)
      obtain ⟨⟨s, found⟩, -⟩ := readTree_eq_some.mp formed
      have shallow : t.depth + 2 ≤ nestLimit := Nat.le_of_not_lt fun deep => by
        cases whole.symm.trans (readTree_anchored_of_deep found deep)
      cases whole.symm.trans (readTree_anchored formed open_end shallow)
      rw [regex?_anchoredTree, malformed] at compiled
      cases compiled

/-- A well-formed pattern that cannot be put between conditions makes the whole malformed. -/
theorem compile?_anchored_of_not_anchorable (compiled : compile? pattern = some r)
    (unsound : ¬Anchorable pattern) : compile? (anchored pattern) = none := by
  by_cases comment : EndsInComment pattern
  · exact compile?_anchored_eq_none compiled (Or.inl comment)
  by_cases deep : TooDeep pattern
  · exact compile?_anchored_eq_none compiled (Or.inr deep)
  · refine absurd ⟨fun _ => comment, fun _ => deep, fun malformed => ?_⟩ unsound
    cases compiled.symm.trans malformed

/-- A malformed pattern can be put between conditions where the whole is malformed. -/
theorem anchorable_iff (malformed : compile? pattern = none) :
    Anchorable pattern ↔ compile? (anchored pattern) = none := by
  have unformed : ¬(compile? pattern).isSome = true := by
    rw [malformed]
    exact Bool.false_ne_true
  constructor
  · intro sound
    cases whole : compile? (anchored pattern) with
    | none => rfl
    | some r =>
        have closes := closesTooMuch_of_compile? malformed whole
        exact whole.symm.trans (sound.balanced malformed closes)
  · intro whole
    exact ⟨fun formed => absurd formed unformed, fun formed => absurd formed unformed,
      fun _ _ => whole⟩

/-- A pattern without the sign of a comment and without a closing parenthesis can be put between
conditions unless it is nested too deeply. -/
theorem anchorable_of_not_mem (uncommented : '#' ∉ pattern) (unclosed : ')' ∉ pattern)
    (shallow : ¬TooDeep pattern) : Anchorable pattern where
  open_end formed comment := by
    obtain ⟨r, compiled⟩ := Option.isSome_iff_exists.mp formed
    rw [compile?_eq] at compiled
    obtain ⟨t, formed, -⟩ := Option.bind_eq_some_iff.mp compiled
    exact uncommented (comment.sign formed)
  shallow _ := shallow
  balanced _ := by
    rintro ⟨inside, outside, rfl, -⟩
    exact absurd (List.mem_append_right inside List.mem_cons_self) unclosed

end Compiled

end ItemScoring.Pattern
