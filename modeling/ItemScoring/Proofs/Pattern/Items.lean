import ItemScoring.Proofs.Pattern.Escapes

/-!
# Items of sets before a closing parenthesis

Inside brackets a closing parenthesis is a character like any other. Classes with a name between
colons are read before it as at the end of the text, since no name has a parenthesis in it. A single
item at the end of the text is malformed there, because a set has to be closed, but before a closing
parenthesis it is an item.
-/

set_option autoImplicit false

namespace ItemScoring.Pattern

variable {after cs : List Char}

/-! ### Classes with a name between colons -/

/-- Whether a sign of negation comes first, and what is left. -/
def readSign (cs : List Char) : Bool × List Char :=
  match cs with
  | '^' :: rest => (true, rest)
  | rest => (false, rest)

theorem readSign_of_ne {c : Char} (other : c ≠ '^') (cs : List Char) :
    readSign (c :: cs) = (false, c :: cs) := by
  rw [readSign.eq_def]
  split
  case h_1 there =>
      cases there
      exact absurd rfl other
  case h_2 => rfl

theorem readSign_suffix (cs : List Char) : (readSign cs).2 <:+ cs := by
  cases cs with
  | nil => exact List.suffix_refl []
  | cons c cs =>
      by_cases sign : c = '^'
      · subst sign
        exact List.suffix_cons '^' cs
      · have same : (readSign (c :: cs)).2 = c :: cs :=
          congrArg Prod.snd (readSign_of_ne sign cs)
        exact same.symm ▸ List.suffix_refl (c :: cs)

theorem readSign_append (cs after : List Char) :
    readSign (cs ++ ')' :: after) = ((readSign cs).1, (readSign cs).2 ++ ')' :: after) := by
  cases cs with
  | nil => rfl
  | cons c cs =>
      by_cases sign : c = '^'
      · subst sign
        rfl
      · rw [List.cons_append, readSign_of_ne sign, readSign_of_ne sign]
        rfl

/-- The class with the name that was read, where a colon and a closing bracket follow. -/
def closeClass? (negated : Bool) (name : List Char) : List Char → Option (SetTree × List Char)
  | ':' :: ']' :: after =>
    (namedClasses.lookup (String.ofList name)).map fun s => (.named s negated, after)
  | _ => none

/-- The class whose name comes next, up to a colon and a closing bracket. -/
def readNamedClass? (negated : Bool) (cs : List Char) : Option (SetTree × List Char) :=
  closeClass? negated (cs.takeWhile (· ≠ ':')) (cs.dropWhile (· ≠ ':'))

theorem readNamed?_colon (cs : List Char) :
    readNamed? (':' :: cs) = readNamedClass? (readSign cs).1 (readSign cs).2 := by
  rfl

theorem readNamed?_of_ne {c : Char} (other : c ≠ ':') (cs : List Char) :
    readNamed? (c :: cs) = none := by
  rw [readNamed?.eq_def]
  split
  case h_1 there =>
      cases there
      exact absurd rfl other
  case h_2 => rfl

/-- No class has a closing parenthesis in its name. -/
theorem closeClass?_of_mem (negated : Bool) {name : List Char} (closing : ')' ∈ name)
    (cs : List Char) : closeClass? negated name cs = none := by
  have without : ∀ p ∈ namedClasses, ')' ∉ p.1.toList := by decide
  have unknown : namedClasses.lookup (String.ofList name) = none := by
    rw [List.lookup_eq_none_iff]
    intro p member
    rw [bne_iff_ne]
    rintro same
    exact without p member (same ▸ by simpa using closing)
  rw [closeClass?.eq_def]
  split
  · rw [unknown]
    rfl
  · rfl

theorem closeClass?_append (negated : Bool) (name : List Char) (c : Char) (cs after : List Char) :
    closeClass? negated name (c :: cs ++ ')' :: after) =
      (closeClass? negated name (c :: cs)).map fun p => (p.1, p.2 ++ ')' :: after) := by
  by_cases colon : c = ':'
  · subst colon
    cases cs with
    | nil => rfl
    | cons d cs =>
        by_cases bracket : d = ']'
        · subst bracket
          cases found : namedClasses.lookup (String.ofList name) <;> simp [closeClass?, found]
        · simp [closeClass?, bracket]
  · simp [closeClass?, colon]

theorem readNamedClass?_append (negated : Bool) (cs after : List Char) :
    readNamedClass? negated (cs ++ ')' :: after) =
      (readNamedClass? negated cs).map fun p => (p.1, p.2 ++ ')' :: after) := by
  have whole := List.takeWhile_append_dropWhile (p := fun c : Char => decide (c ≠ ':')) (l := cs)
  rw [readNamedClass?, readNamedClass?, List.dropWhile_append, List.takeWhile_append]
  cases left : cs.dropWhile (· ≠ ':') with
  | nil =>
      -- The name goes on behind the closing parenthesis, so that there is no class of that name.
      rw [left, List.append_nil] at whole
      rw [if_pos (congrArg List.length whole), closeClass?_of_mem]
      · rfl
      · exact List.mem_append_right cs List.mem_cons_self
  | cons c rest =>
      have shorter : (cs.takeWhile (· ≠ ':')).length ≠ cs.length := by
        have lengths := congrArg List.length whole
        rw [left, List.length_append, List.length_cons] at lengths
        omega
      rw [if_neg shorter]
      exact closeClass?_append negated _ c rest after

theorem readNamed?_append (cs after : List Char) :
    readNamed? (cs ++ ')' :: after) =
      (readNamed? cs).map fun p => (p.1, p.2 ++ ')' :: after) := by
  cases cs with
  | nil => rfl
  | cons c cs =>
      by_cases colon : c = ':'
      · subst colon
        rw [List.cons_append, readNamed?_colon, readNamed?_colon, readSign_append]
        exact readNamedClass?_append _ _ after
      · rw [List.cons_append, readNamed?_of_ne colon, readNamed?_of_ne colon]
        rfl

theorem within_readNamed? (cs : List Char) : Within cs (readNamed? cs) := by
  cases cs with
  | nil => exact within_none []
  | cons c cs =>
      by_cases colon : c = ':'
      · subst colon
        have end_of := (List.dropWhile_suffix (fun c => decide (c ≠ ':'))).trans
          (readSign_suffix cs)
        rw [readNamed?_colon, readNamedClass?, closeClass?.eq_def]
        refine Within.cons ?_ ':'
        split
        next rest there =>
          rw [there] at end_of
          refine Within.mono ?_ ((List.suffix_append [':', ']'] rest).trans end_of)
          cases namedClasses.lookup _ with
          | none => exact within_none rest
          | some s => exact within_some _ (List.suffix_refl rest)
        · exact within_none cs
      · rw [readNamed?_of_ne colon]
        exact within_none _

/-! ### Items -/

theorem peekPast_append (verbose : Bool) (cs after : List Char) :
    peekPast verbose (cs ++ ')' :: after) = some ((peekPast verbose cs).getD ')') := by
  have behind : ∀ ds : List Char, ((ds ++ ')' :: after).dropWhile Text.isBlank).head? =
      some ((ds.dropWhile Text.isBlank).head?.getD ')') := by
    intro ds
    rw [List.dropWhile_append]
    cases ds.dropWhile Text.isBlank with
    | nil => rfl
    | cons d ds => rfl
  cases verbose with
  | false =>
      cases cs with
      | nil => rfl
      | cons c cs => rfl
  | true =>
      rw [peekPast, peekPast, if_pos rfl, if_pos rfl, List.dropWhile_append]
      cases cs.dropWhile Text.isBlank with
      | nil => rfl
      | cons c cs =>
          by_cases sign : c = '#'
          · subst sign
            exact behind cs
          · simp [sign]

theorem within_readSetAtom (verbose : Bool) (c : Char) (cs : List Char) :
    Within cs (readSetAtom verbose (c :: cs)) := by
  rw [readSetAtom]
  split
  · exact within_readEscape verbose cs
  · exact within_some _ (List.suffix_refl cs)

/-- One end of a range before a closing parenthesis is read as at the end of the text, or it is a
boundary, which stands for no character. -/
theorem agrees_readSetAtom (verbose : Bool) (cs after : List Char) :
    Agrees after cs (readSetAtom verbose cs) (readSetAtom verbose (cs ++ ')' :: after)) ∨
      readSetAtom verbose cs = none ∧ ∃ rest, readSetAtom verbose (cs ++ ')' :: after) =
        some (.assertion .wordBoundary, '\x7b' :: rest) := by
  cases cs with
  | nil => exact Or.inl (agrees_none (within_some _ (List.suffix_refl after)))
  | cons c cs =>
      rw [List.cons_append, readSetAtom, readSetAtom]
      split
      · rcases agrees_readEscape verbose cs after with same | ⟨rest, -, -, hx, hy⟩
        · exact Or.inl (same.cons c)
        · exact Or.inr ⟨hx, _, hy⟩
      · exact Or.inl (agrees_some _ (List.suffix_cons c cs))

/-- The range between two characters, where both are characters. -/
def rangeOf? (first second : Atom) : Option SetTree :=
  match first, second with
  | .literal low _, .literal high _ => if low ≤ high then some (.range low high) else none
  | _, _ => none

/-- The rest of a range, after its hyphen. -/
def readRangeEnd (verbose : Bool) (first : Atom) (cs : List Char) :
    Option (SetTree × List Char) :=
  (readSetAtom verbose cs).bind fun p => (rangeOf? first p.1).map fun item => (item, p.2)

/-- The item that an atom begins, after the atom and what is skipped there. -/
def readItemEnd (verbose : Bool) (first : Atom) (cs : List Char) : Option (SetTree × List Char) :=
  match cs with
  | [] => none
  | c :: rest =>
    if c = '-' ∧ ¬(peekPast verbose rest = some ']' ∨ peekPast verbose rest = some '-') then
      readRangeEnd verbose first (skip verbose rest)
    else first.setItem?.map fun item => (item, c :: rest)

theorem readSetItem_eq (verbose : Bool) (cs : List Char) :
    readSetItem verbose cs =
      (readSetAtom verbose cs).bind fun p => readItemEnd verbose p.1 (skip verbose p.2) := by
  refine Option.bind_congr fun p _ => ?_
  obtain ⟨first, rest⟩ := p
  have alone : ∀ ds : List Char, (do let item ← first.setItem?
                                     return (item, ds)) =
      first.setItem?.map fun item => (item, ds) := fun ds => by
    cases first.setItem? <;> rfl
  dsimp only
  cases skip verbose rest with
  | nil => rfl
  | cons c ds =>
      by_cases hyphen : c = '-'
      · subst hyphen
        by_cases literal : peekPast verbose ds = some ']' ∨ peekPast verbose ds = some '-'
        · simp only [readItemEnd, literal, not_true, and_false, if_false]
          exact alone _
        · simp only [readItemEnd, literal, not_false_eq_true, and_true, if_true]
          refine Option.bind_congr fun q _ => ?_
          obtain ⟨second, rest⟩ := q
          cases first with
          | literal low _ =>
              cases second with
              | literal high _ =>
                  by_cases ordered : low ≤ high
                  · simp [rangeOf?, ordered]
                  · simp [rangeOf?, ordered]
              | _ => rfl
          | _ => rfl
      · rw [readItemEnd, if_neg (fun both => hyphen both.1), ← alone]
        split
        case h_1 there => cases there
        case h_2 there =>
            cases there
            exact absurd rfl hyphen
        case h_3 => rfl

theorem within_readRangeEnd (verbose : Bool) (first : Atom) (cs : List Char) :
    Within cs (readRangeEnd verbose first cs) := by
  cases cs with
  | nil => exact within_none []
  | cons c cs =>
      refine ((within_readSetAtom verbose c cs).bind fun second rest => ?_).cons c
      cases made : rangeOf? first second with
      | none => simpa [made] using within_none rest
      | some item => simpa [made] using within_some item (List.suffix_refl rest)

theorem agrees_readRangeEnd (verbose : Bool) (first : Atom) (cs after : List Char) :
    Agrees after cs (readRangeEnd verbose first cs)
      (readRangeEnd verbose first (cs ++ ')' :: after)) := by
  rcases agrees_readSetAtom verbose cs after with same | ⟨hx, rest, hy⟩
  · exact same.mapValue (rangeOf? first)
  · have unmade : rangeOf? first (.assertion .wordBoundary) = none := by
      cases first <;> rfl
    rw [readRangeEnd, readRangeEnd, hx, hy, Option.bind_some, unmade]
    exact agrees_none (within_none after)

theorem within_readItemEnd (verbose : Bool) (first : Atom) (cs : List Char) :
    Within cs (readItemEnd verbose first cs) := by
  cases cs with
  | nil => exact within_none []
  | cons c cs =>
      rw [readItemEnd]
      split
      · exact ((within_readRangeEnd verbose first _).mono (skip_suffix verbose cs)).cons c
      · cases first.setItem? with
        | none => exact within_none _
        | some item => exact within_some item (List.suffix_refl _)

theorem agrees_readItemEnd (verbose : Bool) (first : Atom) {cs : List Char} (left : cs ≠ [])
    (after : List Char) :
    Agrees after cs (readItemEnd verbose first cs)
      (readItemEnd verbose first (cs ++ ')' :: after)) := by
  cases cs with
  | nil => exact absurd rfl left
  | cons c cs =>
      have peeked : (peekPast verbose (cs ++ ')' :: after) = some ']' ∨
          peekPast verbose (cs ++ ')' :: after) = some '-') ↔
          (peekPast verbose cs = some ']' ∨ peekPast verbose cs = some '-') := by
        rw [peekPast_append]
        cases peekPast verbose cs with
        | none => decide
        | some d => rfl
      simp only [List.cons_append, readItemEnd, peeked]
      split
      · refine Agrees.cons (Agrees.skip verbose (within_readRangeEnd verbose first) rfl ?_) c
        exact fun rest _ _ => agrees_readRangeEnd verbose first rest after
      · cases first.setItem? with
        | none => exact agrees_none (within_none after)
        | some item => exact agrees_some item (List.suffix_refl (c :: cs))

theorem within_readItemEnd_skip (verbose : Bool) (first : Atom) (cs : List Char) :
    Within cs (readItemEnd verbose first (skip verbose cs)) :=
  (within_readItemEnd verbose first _).mono (skip_suffix verbose cs)

theorem within_readSetItem (verbose : Bool) (c : Char) (cs : List Char) :
    Within cs (readSetItem verbose (c :: cs)) := by
  rw [readSetItem_eq]
  exact (within_readSetAtom verbose c cs).bind (within_readItemEnd_skip verbose)

/-- An item before a closing parenthesis is read as at the end of the set, or the text ends with it:
then nothing is found at the end of the text, but before a closing parenthesis the item is. -/
theorem agrees_readSetItem (verbose : Bool) (cs after : List Char) :
    Agrees after cs (readSetItem verbose cs) (readSetItem verbose (cs ++ ')' :: after)) ∨
      readSetItem verbose cs = none ∧ ∃ item,
        readSetItem verbose (cs ++ ')' :: after) = some (item, ')' :: after) := by
  rw [readSetItem_eq, readSetItem_eq]
  rcases agrees_readSetAtom verbose cs after with same | ⟨hx, rest, hy⟩
  · rcases same with ⟨first, rest, hx, end_of, hy⟩ | ⟨first, hx, -, hy, -⟩ | ⟨hx, hy⟩
    · rw [hx, hy, Option.bind_some, Option.bind_some]
      by_cases left : skip verbose rest = []
      · rw [left]
        rcases skip_append_of_eq_nil left after with closing | swallowed
        · rw [closing]
          cases made : first.setItem? with
          | none =>
              have none_made : readItemEnd verbose first (')' :: after) = none := by
                simp [readItemEnd, made]
              exact Or.inl (agrees_none (none_made ▸ within_none after))
          | some item => exact Or.inr ⟨rfl, item, by simp [readItemEnd, made]⟩
        · exact Or.inl (agrees_none ((within_readItemEnd verbose first _).mono swallowed))
      · rw [skip_append_of_ne_nil left]
        have same := agrees_readItemEnd verbose first left after
        exact Or.inl (same.mono ((skip_suffix verbose rest).trans end_of))
    · rw [hx, Option.bind_some, skip_nil]
      exact Or.inl (agrees_none (hy.bind (within_readItemEnd_skip verbose)))
    · rw [hx]
      exact Or.inl (agrees_none (hy.bind (within_readItemEnd_skip verbose)))
  · rw [hx, hy]
    rw [Option.bind_some, skip_brace]
    exact Or.inl (agrees_none (by simpa [readItemEnd, Atom.setItem?] using within_none after))

end ItemScoring.Pattern
