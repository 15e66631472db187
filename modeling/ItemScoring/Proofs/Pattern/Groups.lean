import ItemScoring.Proofs.Pattern.Continuation

/-!
# The beginning of a group before a closing parenthesis

After an opening parenthesis flags, a name or nothing at all may come. Flags that are still being
read at the end of the text are ended by a closing parenthesis, which then belongs to them; a name
cannot go on behind one.
-/

set_option autoImplicit false

namespace ItemScoring.Pattern

variable {after cs : List Char}

/-! ### Flags and names -/

theorem within_readFlags (r : FlagReading) (cs : List Char) : Within cs (readFlags r cs) := by
  induction cs generalizing r with
  | nil => exact within_none []
  | cons c cs ih =>
      rw [readFlags]
      split
      · split
        · exact within_none _
        · exact within_some r (List.suffix_refl _)
      refine Within.cons ?_ c
      split
      · split
        · exact within_none cs
        · exact ih _
      split
      · split
        · exact within_none cs
        · exact ih _
      cases switchFlag r.change (!r.negated) c with
      | none => exact within_none cs
      | some change => exact ih _

/-- Flags end at a colon or a closing parenthesis, which is left. -/
theorem readFlags_append (r : FlagReading) (cs after : List Char) :
    (∃ q c rest, readFlags r cs = some (q, c :: rest) ∧
        readFlags r (cs ++ ')' :: after) = some (q, c :: rest ++ ')' :: after)) ∨
      readFlags r cs = none ∧ (readFlags r (cs ++ ')' :: after) = none ∨
        ∃ q, readFlags r (cs ++ ')' :: after) = some (q, ')' :: after)) := by
  induction cs generalizing r with
  | nil =>
      refine Or.inr ⟨rfl, ?_⟩
      rw [List.nil_append, readFlags, if_pos (Or.inr rfl)]
      split
      · exact Or.inl rfl
      · exact Or.inr ⟨r, rfl⟩
  | cons c cs ih =>
      rw [List.cons_append, readFlags, readFlags]
      split
      · split
        · exact Or.inr ⟨rfl, Or.inl rfl⟩
        · exact Or.inl ⟨r, c, cs, rfl, rfl⟩
      split
      · split
        · exact Or.inr ⟨rfl, Or.inl rfl⟩
        · exact ih _
      split
      · split
        · exact Or.inr ⟨rfl, Or.inl rfl⟩
        · exact ih _
      cases switchFlag r.change (!r.negated) c with
      | none => exact Or.inr ⟨rfl, Or.inl rfl⟩
      | some change => exact ih _

theorem within_readName (sofar cs : List Char) : Within cs (readName sofar cs) := by
  induction cs generalizing sofar with
  | nil => exact within_none []
  | cons c cs ih =>
      refine Within.cons ?_ c
      rw [readName]
      split
      · split
        · exact within_none cs
        · exact within_some _ (List.suffix_refl cs)
      split
      · exact ih _
      · exact within_none cs

theorem agrees_readName (sofar cs after : List Char) :
    Agrees after cs (readName sofar cs) (readName sofar (cs ++ ')' :: after)) := by
  induction cs generalizing sofar with
  | nil =>
      refine agrees_none ?_
      rw [List.nil_append, readName, if_neg (by decide)]
      split
      · exact within_readName _ after
      · exact within_none after
  | cons c cs ih =>
      refine Agrees.cons ?_ c
      rw [List.cons_append, readName, readName]
      split
      · split
        · exact agrees_none (within_none after)
        · exact agrees_some _ (List.suffix_refl cs)
      split
      · exact ih _
      · exact agrees_none (within_none after)

/-- What flags begin: a group, or nothing when they stand alone. -/
def closeFlags (r : FlagReading) (cs : List Char) : Option (Opening × List Char) :=
  match cs with
  | [] => none
  | c :: rest =>
    if c = ')' then (if r.empty then none else some (.flags r.change, rest))
    else some (.group r.change, rest)

/-- Flags after a question mark, and what they begin. -/
def readFlagGroup (cs : List Char) : Option (Opening × List Char) :=
  (readFlags ⟨.none, false, false, true, false⟩ cs).bind fun p => closeFlags p.1 p.2

/-- A group with a name, after the opening angle bracket. -/
def readNamedGroup (cs : List Char) : Option (Opening × List Char) :=
  (readName [] cs).map fun p => (.named p.1, p.2)

/-- What begins with a question mark, after it. -/
def readQuestion (cs : List Char) : Option (Opening × List Char) :=
  match cs with
  | [] => none
  | c :: rest =>
    if c = '=' ∨ c = '!' then none
    else if c = '<' then
      if rest.head? = some '=' ∨ rest.head? = some '!' then none else readNamedGroup rest
    else if c = 'P' ∧ rest.head? = some '<' then readNamedGroup rest.tail
    else readFlagGroup (c :: rest)

theorem readFlagGroup_eq (cs : List Char) :
    (match readFlags ⟨.none, false, false, true, false⟩ cs with
      | some (r, ')' :: rest) => if r.empty then none else some (.flags r.change, rest)
      | some (r, _ :: rest) => some (.group r.change, rest)
      | _ => none) = readFlagGroup cs := by
  rw [readFlagGroup]
  cases readFlags ⟨.none, false, false, true, false⟩ cs with
  | none => rfl
  | some p =>
      obtain ⟨r, rest⟩ := p
      cases rest with
      | nil => rfl
      | cons c rest =>
          by_cases closing : c = ')'
          · subst closing
            rfl
          · rw [Option.bind_some, closeFlags, if_neg closing]
            split
            case h_1 there =>
                cases there
                exact absurd rfl closing
            case h_2 there =>
                cases there
                rfl
            case h_3 other => exact absurd rfl (other r c rest)

theorem readOpening_eq (verbose : Bool) (cs : List Char) :
    readOpening verbose cs =
      match skip verbose cs with
      | [] => some (.group .none, [])
      | c :: rest => if c = '?' then readQuestion rest else some (.group .none, c :: rest) := by
  rw [readOpening]
  split
  case h_1 there => rw [there]; rfl
  case h_2 there => rw [there]; rfl
  case h_3 there => rw [there]; rfl
  case h_4 there => rw [there]; rfl
  case h_5 there => rw [there]; rfl
  case h_6 rest equals exclamation there =>
    have ahead : ¬(rest.head? = some '=' ∨ rest.head? = some '!') := by
      rintro (next | next)
      · obtain ⟨ds, rfl⟩ := List.head?_eq_some_iff.mp next
        exact equals ds rfl
      · obtain ⟨ds, rfl⟩ := List.head?_eq_some_iff.mp next
        exact exclamation ds rfl
    rw [there]
    change _ = readQuestion ('<' :: rest)
    rw [readQuestion, if_neg (by decide), if_pos rfl, if_neg ahead]
    rfl
  case h_7 rest equals exclamation _ _ named angle there =>
    rw [there]
    refine (readFlagGroup_eq rest).trans (show readFlagGroup rest = readQuestion rest from ?_)
    cases rest with
    | nil => rfl
    | cons c rest =>
        rw [readQuestion, if_neg, if_neg, if_neg]
        · rintro ⟨rfl, next⟩
          obtain ⟨ds, rfl⟩ := List.head?_eq_some_iff.mp next
          exact named ds rfl
        · rintro rfl
          exact angle rest rfl
        · rintro (rfl | rfl)
          · exact equals rest rfl
          · exact exclamation rest rfl
  case h_8 other =>
    cases left : skip verbose cs with
    | nil => rfl
    | cons c rest => exact (if_neg fun mark : c = '?' => other rest (mark ▸ left)).symm

theorem within_closeFlags (r : FlagReading) (cs : List Char) : Within cs (closeFlags r cs) := by
  cases cs with
  | nil => exact within_none []
  | cons c rest =>
      refine Within.cons ?_ c
      rw [closeFlags]
      split
      · split
        · exact within_none rest
        · exact within_some _ (List.suffix_refl rest)
      · exact within_some _ (List.suffix_refl rest)

theorem within_readFlagGroup (cs : List Char) : Within cs (readFlagGroup cs) :=
  (within_readFlags _ cs).bind within_closeFlags

theorem agrees_readFlagGroup (cs after : List Char) :
    Agrees after cs (readFlagGroup cs) (readFlagGroup (cs ++ ')' :: after)) := by
  rw [readFlagGroup, readFlagGroup]
  rcases readFlags_append ⟨.none, false, false, true, false⟩ cs after with
    ⟨q, c, rest, hx, hy⟩ | ⟨hx, hy | ⟨q, hy⟩⟩
  · have end_of := (List.suffix_cons c rest).trans (within_readFlags _ cs q (c :: rest) hx)
    rw [hx, hy, Option.bind_some, Option.bind_some, List.cons_append, closeFlags, closeFlags]
    split
    · split
      · exact agrees_none (within_none after)
      · exact agrees_some _ end_of
    · exact agrees_some _ end_of
  · rw [hx, hy]
    exact agrees_none (within_none after)
  · rw [hx, hy, Option.bind_some, closeFlags, if_pos rfl]
    split
    · exact agrees_none (within_none after)
    · exact agrees_none (within_some _ (List.suffix_refl after))

theorem within_readNamedGroup (cs : List Char) : Within cs (readNamedGroup cs) :=
  (within_readName [] cs).map Opening.named

theorem agrees_readNamedGroup (cs after : List Char) :
    Agrees after cs (readNamedGroup cs) (readNamedGroup (cs ++ ')' :: after)) :=
  (agrees_readName [] cs after).map Opening.named

theorem within_readQuestion (cs : List Char) : Within cs (readQuestion cs) := by
  cases cs with
  | nil => exact within_none []
  | cons c rest =>
      rw [readQuestion]
      split
      · exact within_none _
      split
      · split
        · exact within_none _
        · exact (within_readNamedGroup rest).cons c
      split
      · exact ((within_readNamedGroup _).mono (List.tail_suffix rest)).cons c
      · exact within_readFlagGroup (c :: rest)

theorem agrees_readQuestion (cs after : List Char) :
    Agrees after cs (readQuestion cs) (readQuestion (cs ++ ')' :: after)) := by
  cases cs with
  | nil => exact agrees_none (within_none after)
  | cons c rest =>
      have ahead {d : Char} (other : ')' ≠ d) :
          (rest ++ ')' :: after).head? = some d ↔ rest.head? = some d := by
        cases rest with
        | nil => simp [other]
        | cons e rest => rfl
      simp only [List.cons_append, readQuestion, ahead (d := '=') (by decide),
        ahead (d := '!') (by decide), ahead (d := '<') (by decide)]
      split
      · exact agrees_none (within_none after)
      split
      · split
        · exact agrees_none (within_none after)
        · exact (agrees_readNamedGroup rest after).cons c
      split
      next named =>
        have left : rest ≠ [] := by
          rintro rfl
          cases named.2
        rw [List.tail_append_of_ne_nil left]
        exact ((agrees_readNamedGroup rest.tail after).mono (List.tail_suffix rest)).cons c
      · exact agrees_readFlagGroup (c :: rest) after

theorem readOpening_skip (verbose : Bool) (cs : List Char) :
    readOpening verbose (skip verbose cs) = readOpening verbose cs := by
  rw [readOpening_eq, readOpening_eq, skip_skip]

theorem within_readOpening (verbose : Bool) (cs : List Char) :
    Within cs (readOpening verbose cs) := by
  refine Within.mono ?_ (skip_suffix verbose cs)
  rw [readOpening_eq]
  cases skip verbose cs with
  | nil => exact within_some _ (List.suffix_refl [])
  | cons c rest =>
      dsimp only
      split
      · exact (within_readQuestion rest).cons c
      · exact within_some _ (List.suffix_refl _)

theorem agrees_readOpening (verbose : Bool) (cs after : List Char) :
    Agrees after cs (readOpening verbose cs) (readOpening verbose (cs ++ ')' :: after)) := by
  rw [← readOpening_skip, ← readOpening_skip verbose (cs ++ _)]
  refine Agrees.skip verbose (within_readOpening verbose) rfl fun rest _ skipped => ?_
  rw [readOpening_eq, readOpening_eq, skip_append skipped, skipped]
  cases rest with
  | nil => exact agrees_some _ (List.suffix_refl [])
  | cons c rest =>
      dsimp only [List.cons_append]
      split
      · exact (agrees_readQuestion rest after).cons c
      · exact agrees_some _ (List.suffix_refl (c :: rest))

end ItemScoring.Pattern
