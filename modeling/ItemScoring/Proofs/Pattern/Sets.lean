import ItemScoring.Proofs.Pattern.Items

/-!
# Sets before a closing parenthesis

A set that is closed does not see what comes after it; one that is still open at the end of the text
takes the closing parenthesis as one of its items and goes on, and is malformed or ends later.
-/

set_option autoImplicit false

namespace ItemScoring.Pattern

variable {after cs : List Char}

/-! ### The beginning of a set -/

theorem readHyphens_of_ne {c : Char} (other : c ≠ '-') (verbose : Bool) (fuel : Nat)
    (items : List SetTree) (cs : List Char) :
    readHyphens verbose fuel items (c :: cs) = (items, c :: cs) := by
  cases fuel with
  | zero => rfl
  | succ fuel =>
      rw [readHyphens.eq_def]
      split
      case h_1 there => cases there
      case h_2 there =>
          cases there
          exact absurd rfl other
      case h_3 there => rfl

theorem readHyphens_nil (verbose : Bool) (fuel : Nat) (items : List SetTree) :
    readHyphens verbose fuel items [] = (items, []) := by
  cases fuel with
  | zero => rfl
  | succ fuel => rfl

theorem within_readHyphens (verbose : Bool) (fuel : Nat) (items : List SetTree)
    (cs : List Char) : Within cs (some (readHyphens verbose fuel items cs)) := by
  induction fuel generalizing items cs with
  | zero => exact within_some items (List.suffix_refl cs)
  | succ fuel ih =>
      cases cs with
      | nil => exact within_some items (List.suffix_refl [])
      | cons c cs =>
          by_cases hyphen : c = '-'
          · subst hyphen
            exact ((ih _ _).mono (skip_suffix verbose cs)).cons '-'
          · rw [readHyphens_of_ne hyphen]
            exact within_some items (List.suffix_refl _)

theorem agrees_readHyphens (verbose : Bool) {n m : Nat} (items : List SetTree)
    {cs after : List Char} (enough : cs.length < n) (more : cs.length + 1 + after.length < m) :
    Agrees after cs (some (readHyphens verbose n items cs))
      (some (readHyphens verbose m items (cs ++ ')' :: after))) := by
  induction n generalizing m items cs with
  | zero => exact absurd enough (Nat.not_lt_zero _)
  | succ n ih =>
      obtain ⟨m, rfl⟩ := Nat.exists_eq_succ_of_ne_zero (Nat.ne_zero_of_lt more)
      cases cs with
      | nil => exact agrees_some items (List.suffix_refl [])
      | cons c cs =>
          rw [List.length_cons] at enough more
          rw [List.cons_append]
          by_cases hyphen : c = '-'
          · subst hyphen
            refine Agrees.cons (Agrees.skip verbose
              (f := fun ds => some (readHyphens verbose n (.range '-' '-' :: items) ds))
              (g := fun ds => some (readHyphens verbose m (.range '-' '-' :: items) ds))
              (within_readHyphens verbose m _) ?_ fun rest end_of _ => ?_) '-'
            · rw [readHyphens_nil, readHyphens_nil]
            · have shorter := end_of.length_le
              exact ih _ (by omega) (by omega)
          · rw [readHyphens_of_ne hyphen, readHyphens_of_ne hyphen]
            exact agrees_some items (List.suffix_refl (c :: cs))

/-- What follows the hyphens at the beginning of a set: a closing bracket stands for itself where
nothing comes before it. -/
def firstBracket (verbose negated : Bool) (hyphens : List SetTree × List Char) :
    Bool × List SetTree × List Char :=
  match hyphens with
  | ([], ']' :: rest) => (negated, [.range ']' ']'], skip verbose rest)
  | (items, rest) => (negated, items, rest)

/-- The same, with what is left as the last of two values. -/
def readFirstBracket (verbose negated : Bool) (items : List SetTree) (cs : List Char) :
    (Bool × List SetTree) × List Char :=
  regroup (firstBracket verbose negated (items, cs))

theorem readFirstBracket_of_ne {c : Char} (other : c ≠ ']') (verbose negated : Bool)
    (items : List SetTree) (cs : List Char) :
    readFirstBracket verbose negated items (c :: cs) = ((negated, items), c :: cs) := by
  rw [readFirstBracket, firstBracket.eq_def]
  split
  case h_1 there =>
      cases there
      exact absurd rfl other
  case h_2 there =>
      cases there
      rfl

theorem within_readFirstBracket (verbose negated : Bool) (items : List SetTree)
    (cs : List Char) : Within cs (some (readFirstBracket verbose negated items cs)) := by
  rw [readFirstBracket, firstBracket.eq_def]
  split
  case h_1 rest there =>
      cases there
      exact (within_some _ (skip_suffix verbose rest)).cons ']'
  case h_2 there =>
      cases there
      exact within_some _ (List.suffix_refl cs)

theorem agrees_readFirstBracket (verbose negated : Bool) (items : List SetTree)
    (cs after : List Char) :
    Agrees after cs (some (readFirstBracket verbose negated items cs))
      (some (readFirstBracket verbose negated items (cs ++ ')' :: after))) := by
  cases cs with
  | nil =>
      rw [List.nil_append, readFirstBracket_of_ne (by decide)]
      cases items with
      | nil => exact agrees_some _ (List.suffix_refl [])
      | cons item items => exact agrees_some _ (List.suffix_refl [])
  | cons c cs =>
      rw [List.cons_append]
      by_cases bracket : c = ']'
      · subst bracket
        cases items with
        | nil => exact (agrees_skip _ verbose cs after).cons ']'
        | cons item items => exact agrees_some _ (List.suffix_refl (']' :: cs))
      · rw [readFirstBracket_of_ne bracket, readFirstBracket_of_ne bracket]
        exact agrees_some _ (List.suffix_refl (c :: cs))

/-- The sign of negation of a set, and what is skipped after it. -/
def readNegation (verbose : Bool) (cs : List Char) : Bool × List Char :=
  match skip verbose cs with
  | '^' :: rest => (true, skip verbose rest)
  | rest => (false, rest)

theorem readNegation_eq (verbose : Bool) (cs : List Char) :
    readNegation verbose cs =
      ((readSign (skip verbose cs)).1, skip verbose (readSign (skip verbose cs)).2) := by
  rw [readNegation]
  split
  case h_1 rest there =>
      rw [there]
      rfl
  case h_2 other =>
      have unsigned : readSign (skip verbose cs) = (false, skip verbose cs) := by
        rw [readSign.eq_def]
        split
        case h_1 rest there => exact absurd there (other rest)
        case h_2 => rfl
      rw [unsigned, skip_skip]

theorem within_readNegation (verbose : Bool) (cs : List Char) :
    Within cs (some (readNegation verbose cs)) := by
  rw [readNegation_eq]
  exact within_some _
    (((skip_suffix verbose _).trans (readSign_suffix _)).trans (skip_suffix verbose cs))

theorem agrees_readNegation (verbose : Bool) (cs after : List Char) :
    Agrees after cs (some (readNegation verbose cs))
      (some (readNegation verbose (cs ++ ')' :: after))) := by
  rw [readNegation_eq, readNegation_eq]
  refine Agrees.skip verbose
    (f := fun ds => some ((readSign ds).1, skip verbose (readSign ds).2))
    (g := fun ds => some ((readSign ds).1, skip verbose (readSign ds).2))
    (fun ds => within_some _ ((skip_suffix verbose _).trans (readSign_suffix ds))) rfl
    fun rest _ _ => ?_
  rw [readSign_append]
  exact (agrees_skip _ verbose _ after).mono (readSign_suffix rest)

/-- The beginning of a set is its sign, its hyphens and a closing bracket. -/
theorem readSetStart_eq (verbose : Bool) (cs : List Char) :
    some (regroup (readSetStart verbose cs)) =
      (some (readNegation verbose cs)).bind fun p =>
        (some (readHyphens verbose (p.2.length + 1) [] p.2)).bind fun q =>
          some (readFirstBracket verbose p.1 q.1 q.2) :=
  rfl

theorem within_readSetStart (verbose : Bool) (cs : List Char) :
    Within cs (some (regroup (readSetStart verbose cs))) := by
  rw [readSetStart_eq]
  exact (within_readNegation verbose cs).bind fun negated ds =>
    (within_readHyphens verbose (ds.length + 1) [] ds).bind
      (within_readFirstBracket verbose negated)

theorem agrees_readSetStart (verbose : Bool) (cs after : List Char) :
    Agrees after cs (some (regroup (readSetStart verbose cs)))
      (some (regroup (readSetStart verbose (cs ++ ')' :: after)))) := by
  rw [readSetStart_eq, readSetStart_eq]
  refine (agrees_readNegation verbose cs after).bind (fun negated ds => ?_) (fun _ _ => rfl)
    fun negated ds _ _ => ?_
  · exact (within_readHyphens verbose (ds.length + 1) [] ds).bind
      (within_readFirstBracket verbose negated)
  · refine (agrees_readHyphens verbose [] (Nat.lt_succ_self _) ?_).bind
      (within_readFirstBracket verbose negated) (fun _ _ => rfl)
      fun items rest _ _ => agrees_readFirstBracket verbose negated items rest after
    rw [List.length_append, List.length_cons]
    omega

/-! ### Sets -/

/-- An operation on sets, which is written with two characters. -/
def readOperation? : List Char → Option (SetOperation × List Char)
  | c :: d :: rest =>
    if c = '&' ∧ d = '&' then some (.intersection, rest)
    else if c = '-' ∧ d = '-' then some (.difference, rest)
    else if c = '~' ∧ d = '~' then some (.symmetricDifference, rest)
    else none
  | _ => none

theorem within_readOperation? (c : Char) (cs : List Char) :
    Within cs (readOperation? (c :: cs)) := by
  cases cs with
  | nil => exact within_none []
  | cons d rest =>
      refine Within.cons ?_ d
      rw [readOperation?]
      split
      · exact within_some _ (List.suffix_refl rest)
      split
      · exact within_some _ (List.suffix_refl rest)
      split
      · exact within_some _ (List.suffix_refl rest)
      · exact within_none rest

theorem readOperation?_append (cs after : List Char) :
    readOperation? (cs ++ ')' :: after) =
      (readOperation? cs).map fun p => (p.1, p.2 ++ ')' :: after) := by
  match cs with
  | [] => cases after <;> rfl
  | [c] => simp [readOperation?]
  | c :: d :: rest =>
      simp only [List.cons_append, readOperation?]
      split
      · rfl
      split
      · rfl
      split
      · rfl
      · rfl

theorem readSetBody_succ (verbose : Bool) (fuel : Nat) (pending : Option (SetOperation × SetTree))
    (items : List SetTree) (cs : List Char) :
    readSetBody verbose (fuel + 1) pending items cs =
      match skip verbose cs with
      | [] => none
      | c :: rest =>
        if c = '[' then
          match readNamed? rest with
          | some (item, rest) => readSetBody verbose fuel pending (item :: items) rest
          | none =>
            (some (regroup (readSetStart verbose rest))).bind fun p =>
              (readSetBody verbose fuel none p.1.2 p.2).bind fun q =>
                readSetBody verbose fuel pending (.bracket p.1.1 q.1 :: items) q.2
        else if c = ']' then some (closeItems pending items, rest)
        else
          match readOperation? (c :: rest) with
          | some (operation, rest) =>
            readSetBody verbose fuel (some (operation, closeItems pending items)) [] rest
          | none =>
            (readSetItem verbose (c :: rest)).bind fun p =>
              readSetBody verbose fuel pending (p.1 :: items) p.2 := by
  rw [readSetBody]
  split
  case h_1 nothing => rw [nothing]
  case h_2 bracket =>
    rw [bracket]
    rfl
  case h_3 bracket =>
    rw [bracket]
    rfl
  case h_4 sign =>
    rw [sign]
    rfl
  case h_5 sign =>
    rw [sign]
    rfl
  case h_6 sign =>
    rw [sign]
    rfl
  case h_7 nonempty opening closing both minus tildes =>
    cases left : skip verbose cs with
    | nil => exact (nonempty left).elim
    | cons c rest =>
        have operation : readOperation? (c :: rest) = none := by
          cases rest with
          | nil => rfl
          | cons d rest =>
              rw [readOperation?, if_neg, if_neg, if_neg]
              · rintro ⟨rfl, rfl⟩
                exact tildes rest left
              · rintro ⟨rfl, rfl⟩
                exact minus rest left
              · rintro ⟨rfl, rfl⟩
                exact both rest left
        dsimp only
        rw [if_neg (fun bracket : c = '[' => opening rest (bracket ▸ left)),
          if_neg (fun bracket : c = ']' => closing rest (bracket ▸ left)), operation]
        rfl

theorem readSetBody_nil (verbose : Bool) (fuel : Nat)
    (pending : Option (SetOperation × SetTree)) (items : List SetTree) :
    readSetBody verbose fuel pending items [] = none := by
  cases fuel with
  | zero => rfl
  | succ fuel => rw [readSetBody_succ, skip_nil]

theorem readSetBody_skip (verbose : Bool) (fuel : Nat)
    (pending : Option (SetOperation × SetTree)) (items : List SetTree) (cs : List Char) :
    readSetBody verbose fuel pending items (skip verbose cs) =
      readSetBody verbose fuel pending items cs := by
  cases fuel with
  | zero => rfl
  | succ fuel => rw [readSetBody_succ, readSetBody_succ, skip_skip]

theorem within_readSetBody (verbose : Bool) (fuel : Nat)
    (pending : Option (SetOperation × SetTree)) (items : List SetTree) (cs : List Char) :
    Within cs (readSetBody verbose fuel pending items cs) := by
  induction fuel generalizing pending items cs with
  | zero => exact within_none cs
  | succ fuel ih =>
      refine Within.mono ?_ (skip_suffix verbose cs)
      rw [readSetBody_succ]
      cases skip verbose cs with
      | nil => exact within_none []
      | cons c rest =>
          dsimp only
          split
          · refine Within.cons ?_ c
            have named := within_readNamed? rest
            cases found : readNamed? rest with
            | some p => exact (ih _ _ _).mono (named p.1 p.2 found)
            | none =>
                exact (within_readSetStart verbose rest).bind fun start rest =>
                  (ih none start.2 rest).bind fun body rest => ih _ _ rest
          split
          · exact within_some _ (List.suffix_cons c rest)
          refine Within.cons ?_ c
          have operation := within_readOperation? c rest
          cases found : readOperation? (c :: rest) with
          | some p => exact (ih _ _ _).mono (operation p.1 p.2 found)
          | none => exact (within_readSetItem verbose c rest).bind fun item rest => ih _ _ rest

/-- An open set takes a closing parenthesis as one of its characters. -/
theorem within_readSetBody_closing (verbose : Bool) (fuel : Nat)
    (pending : Option (SetOperation × SetTree)) (items : List SetTree) (after : List Char) :
    Within after (readSetBody verbose fuel pending items (')' :: after)) := by
  cases fuel with
  | zero => exact within_none after
  | succ fuel =>
      have operation : readOperation? (')' :: after) = none := readOperation?_append [] after
      have item : readSetItem verbose (')' :: after) =
          readItemEnd verbose (.literal ')' false) (skip verbose after) := by
        rw [readSetItem_eq]
        rfl
      rw [readSetBody_succ, skip_closing]
      dsimp only
      rw [if_neg (by decide), if_neg (by decide), operation, item]
      exact (within_readItemEnd_skip verbose _ after).bind
        fun item rest => within_readSetBody verbose fuel _ _ rest

theorem agrees_readSetBody (verbose : Bool) {n m : Nat}
    (pending : Option (SetOperation × SetTree)) (items : List SetTree) {cs after : List Char}
    (enough : cs.length < n) (more : cs.length + 1 + after.length < m) :
    Agrees after cs (readSetBody verbose n pending items cs)
      (readSetBody verbose m pending items (cs ++ ')' :: after)) := by
  induction n generalizing m pending items cs with
  | zero => exact absurd enough (Nat.not_lt_zero _)
  | succ n ih =>
      obtain ⟨m, rfl⟩ := Nat.exists_eq_succ_of_ne_zero (Nat.ne_zero_of_lt more)
      -- What is left of the text after a character has been read is short enough for what follows.
      have onward (pending : Option (SetOperation × SetTree)) (items : List SetTree)
          {ds : List Char} (shorter : ds.length < cs.length) :
          Agrees after ds (readSetBody verbose n pending items ds)
            (readSetBody verbose m pending items (ds ++ ')' :: after)) :=
        ih pending items (by omega) (by omega)
      rw [← readSetBody_skip, ← readSetBody_skip verbose (m + 1)]
      refine Agrees.skip verbose (within_readSetBody verbose (m + 1) pending items) ?_
        fun rest end_of skipped => ?_
      · rw [readSetBody_nil, readSetBody_nil]
      cases rest with
      | nil =>
          rw [readSetBody_nil]
          exact agrees_none (within_readSetBody_closing verbose (m + 1) pending items after)
      | cons c rest =>
          have shorter : rest.length < cs.length := end_of.length_le
          rw [readSetBody_succ, readSetBody_succ, skip_append skipped, skipped]
          dsimp only [List.cons_append]
          split
          · refine Agrees.cons ?_ c
            have named := within_readNamed? rest
            rw [readNamed?_append]
            cases found : readNamed? rest with
            | some p =>
                have end_of := named p.1 p.2 found
                have short := end_of.length_le
                exact (onward _ _ (by omega)).mono end_of
            | none =>
                refine (agrees_readSetStart verbose rest after).bind (fun start rest => ?_)
                  (fun start _ => ?_) fun start rest _ end_of => ?_
                · exact (within_readSetBody verbose m none start.2 rest).bind
                    fun body rest => within_readSetBody verbose m _ _ rest
                · simp only [readSetBody_nil, Option.bind_none]
                · have short := end_of.length_le
                  refine (onward none start.2 (by omega)).bind
                    (fun body rest => within_readSetBody verbose m _ _ rest)
                    (fun body _ => ?_) fun body rest _ end_of => ?_
                  · rw [readSetBody_nil, readSetBody_nil]
                  · have short := end_of.length_le
                    exact onward _ _ (by omega)
          split
          · exact agrees_some _ (List.suffix_cons c rest)
          · rw [← List.cons_append, readOperation?_append]
            have operation := within_readOperation? c rest
            cases found : readOperation? (c :: rest) with
            | some p =>
                have end_of := operation p.1 p.2 found
                have short := end_of.length_le
                exact ((onward _ _ (by omega)).mono end_of).cons c
            | none =>
                rcases agrees_readSetItem verbose (c :: rest) after with same | ⟨hx, item, hy⟩
                · refine same.bind (fun item rest => within_readSetBody verbose m _ _ rest)
                    (fun item _ => ?_) fun item ds found _ => ?_
                  · rw [readSetBody_nil, readSetBody_nil]
                  · have short := (within_readSetItem verbose c rest item ds found).length_le
                    exact onward _ _ (by omega)
                · simp only [Option.map_none, hx, hy, Option.bind_none, Option.bind_some]
                  exact agrees_none (within_readSetBody_closing verbose m _ _ after)

theorem readSet_eq (verbose : Bool) (cs : List Char) :
    readSet verbose cs =
      (some (regroup (readSetStart verbose cs))).bind fun p =>
        (readSetBody verbose (cs.length + 1) none p.1.2 p.2).map fun q =>
          (.set p.1.1 q.1, q.2) := by
  rw [Option.bind_some, Option.map_eq_bind]
  rfl

theorem within_readSet (verbose : Bool) (cs : List Char) : Within cs (readSet verbose cs) := by
  rw [readSet_eq]
  exact (within_readSetStart verbose cs).bind fun start rest =>
    (within_readSetBody verbose _ none start.2 rest).map (Tree.set start.1)

theorem agrees_readSet (verbose : Bool) (cs after : List Char) :
    Agrees after cs (readSet verbose cs) (readSet verbose (cs ++ ')' :: after)) := by
  rw [readSet_eq, readSet_eq]
  refine (agrees_readSetStart verbose cs after).bind (fun start rest => ?_) (fun start _ => ?_)
    fun start rest _ end_of => ?_
  · exact (within_readSetBody verbose _ none start.2 rest).map (Tree.set start.1)
  · rw [readSetBody_nil, readSetBody_nil]
  · have short := end_of.length_le
    refine (agrees_readSetBody verbose none start.2 (by omega) ?_).map (Tree.set start.1)
    rw [List.length_append, List.length_cons]
    omega

end ItemScoring.Pattern
