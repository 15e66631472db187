import ItemScoring.Proofs.Pattern.Continuation

/-!
# Bounds of repetitions before a closing parenthesis

Counts and bounds are read before a closing parenthesis as at the end of the text: it is no digit,
and no sign of the bounds. Bounds that are open at the end of the text are malformed there, too.
-/

set_option autoImplicit false

namespace ItemScoring.Pattern

variable {after cs : List Char}

/-! ### Counts -/

theorem readCountDigits_nil (verbose : Bool) (fuel : Nat) (value : Option Nat) :
    readCountDigits verbose fuel value [] = (value, []) := by
  cases fuel with
  | zero => rfl
  | succ fuel => rfl

theorem within_readCountDigits (verbose : Bool) (fuel : Nat) (value : Option Nat)
    (cs : List Char) : Within cs (some (readCountDigits verbose fuel value cs)) := by
  induction fuel generalizing value cs with
  | zero => exact within_some value (List.suffix_refl cs)
  | succ fuel ih =>
      cases cs with
      | nil => exact within_some value (List.suffix_refl [])
      | cons c cs =>
          rw [readCountDigits]
          split
          · exact ((ih _ _).mono (skip_suffix verbose cs)).cons c
          · exact within_some value (List.suffix_refl _)

theorem agrees_readCountDigits (verbose : Bool) {n m : Nat} (value : Option Nat)
    {cs after : List Char} (enough : cs.length < n) (more : cs.length + 1 + after.length < m) :
    Agrees after cs (some (readCountDigits verbose n value cs))
      (some (readCountDigits verbose m value (cs ++ ')' :: after))) := by
  induction n generalizing m value cs with
  | zero => exact absurd enough (Nat.not_lt_zero _)
  | succ n ih =>
      obtain ⟨m, rfl⟩ := Nat.exists_eq_succ_of_ne_zero (Nat.ne_zero_of_lt more)
      cases cs with
      | nil => exact agrees_some value (List.suffix_refl [])
      | cons c cs =>
          rw [List.length_cons] at enough more
          rw [List.cons_append, readCountDigits, readCountDigits]
          split
          · refine Agrees.cons (Agrees.skip verbose
              (f := fun ds => some (readCountDigits verbose n _ ds))
              (g := fun ds => some (readCountDigits verbose m _ ds))
              (within_readCountDigits verbose m _) ?_ fun rest end_of _ => ?_) c
            · rw [readCountDigits_nil, readCountDigits_nil]
            · have shorter := end_of.length_le
              exact ih _ (by omega) (by omega)
          · exact agrees_some value (List.suffix_refl (c :: cs))

theorem skipBlanks_nil (verbose : Bool) (fuel : Nat) : skipBlanks verbose fuel [] = [] := by
  cases fuel with
  | zero => rfl
  | succ fuel => rfl

theorem skipBlanks_suffix (verbose : Bool) (fuel : Nat) (cs : List Char) :
    skipBlanks verbose fuel cs <:+ cs := by
  induction fuel generalizing cs with
  | zero => exact List.suffix_refl cs
  | succ fuel ih =>
      cases cs with
      | nil => exact List.suffix_refl []
      | cons c cs =>
          rw [skipBlanks]
          split
          · exact ((ih _).trans (skip_suffix verbose cs)).trans (List.suffix_cons c cs)
          · exact List.suffix_refl _

theorem agrees_skipBlanks {α : Type} (v : α) (verbose : Bool) {n m : Nat}
    {cs after : List Char} (enough : cs.length < n) (more : cs.length + 1 + after.length < m) :
    Agrees after cs (some (v, skipBlanks verbose n cs))
      (some (v, skipBlanks verbose m (cs ++ ')' :: after))) := by
  induction n generalizing m cs with
  | zero => exact absurd enough (Nat.not_lt_zero _)
  | succ n ih =>
      obtain ⟨m, rfl⟩ := Nat.exists_eq_succ_of_ne_zero (Nat.ne_zero_of_lt more)
      cases cs with
      | nil => exact agrees_some v (List.suffix_refl [])
      | cons c cs =>
          rw [List.length_cons] at enough more
          rw [List.cons_append, skipBlanks, skipBlanks]
          split
          · refine Agrees.cons (Agrees.skip verbose
              (f := fun ds => some (v, skipBlanks verbose n ds))
              (g := fun ds => some (v, skipBlanks verbose m ds))
              (fun ds => within_some v (skipBlanks_suffix verbose m ds)) ?_
              fun rest end_of _ => ?_) c
            · rw [skipBlanks_nil, skipBlanks_nil]
            · have shorter := end_of.length_le
              exact ih (by omega) (by omega)
          · exact agrees_some v (List.suffix_refl (c :: cs))

/-- A count that fits 32 bits, and the blanks after it. -/
def closeCount (verbose : Bool) (value : Option Nat) (cs : List Char) :
    Option (Option Nat × List Char) :=
  if countBound ≤ value.getD 0 then none
  else some (value, skipBlanks verbose (cs.length + 1) cs)

theorem readCount_eq (verbose : Bool) (cs : List Char) :
    readCount verbose cs =
      (some (readCountDigits verbose ((cs.dropWhile Text.isBlank).length + 1) none
        (cs.dropWhile Text.isBlank))).bind fun p => closeCount verbose p.1 p.2 := by
  rfl

theorem within_closeCount (verbose : Bool) (value : Option Nat) (cs : List Char) :
    Within cs (closeCount verbose value cs) := by
  rw [closeCount]
  split
  · exact within_none cs
  · exact within_some value (skipBlanks_suffix verbose _ cs)

theorem agrees_closeCount (verbose : Bool) (value : Option Nat) (cs after : List Char) :
    Agrees after cs (closeCount verbose value cs)
      (closeCount verbose value (cs ++ ')' :: after)) := by
  rw [closeCount, closeCount]
  split
  · exact agrees_none (within_none after)
  · refine agrees_skipBlanks value verbose (Nat.lt_succ_self _) ?_
    rw [List.length_append, List.length_cons]
    omega

theorem within_readCount (verbose : Bool) (cs : List Char) :
    Within cs (readCount verbose cs) := by
  rw [readCount_eq]
  exact ((within_readCountDigits verbose _ none _).bind (within_closeCount verbose)).mono
    (List.dropWhile_suffix Text.isBlank)

theorem agrees_readCount (verbose : Bool) (cs after : List Char) :
    Agrees after cs (readCount verbose cs) (readCount verbose (cs ++ ')' :: after)) := by
  have blanks : (cs ++ ')' :: after).dropWhile Text.isBlank =
      cs.dropWhile Text.isBlank ++ ')' :: after := by
    rw [List.dropWhile_append]
    cases cs.dropWhile Text.isBlank with
    | nil => rfl
    | cons c ds => rfl
  rw [readCount_eq, readCount_eq, blanks]
  refine Agrees.mono ?_ (List.dropWhile_suffix Text.isBlank)
  refine (agrees_readCountDigits verbose none (Nat.lt_succ_self _) ?_).bind
    (within_closeCount verbose) (fun _ _ => rfl)
    fun value rest _ _ => agrees_closeCount verbose value rest after
  rw [List.length_append, List.length_cons]
  omega

/-! ### Bounds -/

theorem skipLazy_suffix (cs : List Char) : skipLazy cs <:+ cs := by
  rw [skipLazy.eq_def]
  split
  · exact List.suffix_cons _ _
  · exact List.suffix_refl cs

theorem skipLazy_append (cs after : List Char) :
    skipLazy (cs ++ ')' :: after) = skipLazy cs ++ ')' :: after := by
  cases cs with
  | nil => rfl
  | cons c cs =>
      by_cases mark : c = '?'
      · subst mark
        rfl
      · simp [skipLazy, mark]

/-- The upper bound, after the comma and what is skipped there. -/
def readUpperBound (verbose : Bool) (first : Option Nat) (cs : List Char) :
    Option ((Nat × Option Nat) × List Char) :=
  if cs.head? = some '\x7d' then first.map fun n => ((n, none), cs)
  else first.bind fun n => (readCount verbose cs).bind fun p =>
    (p.1.map fun m => (n, some m)).map fun bounds => (bounds, p.2)

/-- The bounds, after the first count. -/
def readOtherBound (verbose : Bool) (first : Option Nat) (cs : List Char) :
    Option ((Nat × Option Nat) × List Char) :=
  match cs with
  | [] => first.map fun n => ((n, some n), [])
  | c :: rest =>
    if c = ',' then readUpperBound verbose first (skip verbose rest)
    else first.map fun n => ((n, some n), c :: rest)

/-- The closing brace of the bounds and the mark of a lazy repetition. -/
def closeBounds (verbose : Bool) (bounds : Nat × Option Nat) (cs : List Char) :
    Option ((Nat × Option Nat) × List Char) :=
  match cs with
  | [] => none
  | c :: rest =>
    if c = '\x7d' ∧ bounds.2.all (bounds.1 ≤ ·) then
      some (bounds, skipLazy (skip verbose rest))
    else none

/-- The end of the bounds as it is written with patterns. -/
def afterBounds (verbose : Bool) (least : Nat) (most : Option Nat) :
    List Char → Option (Nat × Option Nat × List Char)
  | '\x7d' :: rest =>
    if most.all (least ≤ ·) then some (least, most, skipLazy (skip verbose rest)) else none
  | _ => none

theorem afterBounds_eq (verbose : Bool) (least : Nat) (most : Option Nat) (cs : List Char) :
    (afterBounds verbose least most cs).map regroup = closeBounds verbose (least, most) cs := by
  rw [afterBounds.eq_def]
  split
  case h_1 rest =>
      rw [closeBounds]
      by_cases ordered : most.all (least ≤ ·) = true
      · rw [if_pos ordered, if_pos ⟨rfl, ordered⟩]
        rfl
      · rw [if_neg ordered, if_neg fun both => ordered both.2]
        rfl
  case h_2 other =>
      rw [closeBounds.eq_def]
      split
      case h_1 => rfl
      case h_2 => exact (if_neg fun both => other _ (congrArg (· :: _) both.1)).symm

theorem readBounds_eq (verbose : Bool) (cs : List Char) :
    (readBounds verbose cs).map regroup =
      (readCount verbose (skip verbose cs)).bind fun p =>
        (readOtherBound verbose p.1 p.2).bind fun q => closeBounds verbose q.1 q.2 := by
  rw [readBounds]
  cases readCount verbose (skip verbose cs) with
  | none => rfl
  | some p =>
      obtain ⟨first, rest⟩ := p
      simp only [Option.bind_eq_bind, Option.bind_some]
      split
      case h_1 rest =>
          change _ = (readUpperBound verbose first (skip verbose rest)).bind _
          split
          case h_1 rest brace =>
              rw [brace, readUpperBound, if_pos List.head?_cons]
              cases first with
              | none => rfl
              | some n => exact afterBounds_eq verbose n none ('\x7d' :: rest)
          case h_2 other =>
              rw [readUpperBound, if_neg]
              · cases first with
                | none => rfl
                | some n =>
                    cases readCount verbose (skip verbose rest) with
                    | none => rfl
                    | some q =>
                        obtain ⟨second, rest⟩ := q
                        cases second with
                        | none => rfl
                        | some m => exact afterBounds_eq verbose n (some m) rest
              · intro brace
                obtain ⟨ds, there⟩ := List.head?_eq_some_iff.mp brace
                exact other ds there
      case h_2 other =>
          have single : readOtherBound verbose first rest =
              first.map fun n => ((n, some n), rest) := by
            rw [readOtherBound.eq_def]
            split
            case h_1 => rfl
            case h_2 => exact if_neg fun comma => other _ (congrArg (· :: _) comma)
          rw [single]
          cases first with
          | none => rfl
          | some n => exact afterBounds_eq verbose n (some n) rest

theorem within_readUpperBound (verbose : Bool) (first : Option Nat) (cs : List Char) :
    Within cs (readUpperBound verbose first cs) := by
  cases first with
  | none =>
      rw [readUpperBound]
      split <;> exact within_none cs
  | some n =>
      rw [readUpperBound]
      split
      · exact within_some _ (List.suffix_refl cs)
      · refine (within_readCount verbose cs).bind fun second rest => ?_
        cases second with
        | none => exact within_none rest
        | some m => exact within_some _ (List.suffix_refl rest)

theorem agrees_readUpperBound (verbose : Bool) (first : Option Nat) (cs after : List Char) :
    Agrees after cs (readUpperBound verbose first cs)
      (readUpperBound verbose first (cs ++ ')' :: after)) := by
  have brace : (cs ++ ')' :: after).head? = some '\x7d' ↔ cs.head? = some '\x7d' := by
    cases cs with
    | nil => simp
    | cons c cs => rfl
  cases first with
  | none =>
      simp only [readUpperBound, brace, Option.map_none, Option.bind_none, ite_self]
      exact agrees_none (within_none after)
  | some n =>
      simp only [readUpperBound, brace]
      split
      · exact agrees_some _ (List.suffix_refl cs)
      · exact (agrees_readCount verbose cs after).mapValue
          fun second => second.map fun m => (n, some m)

theorem within_readOtherBound (verbose : Bool) (first : Option Nat) (cs : List Char) :
    Within cs (readOtherBound verbose first cs) := by
  have single (ds : List Char) : Within ds (first.map fun n => ((n, some n), ds)) := by
    cases first with
    | none => exact within_none ds
    | some n => exact within_some _ (List.suffix_refl ds)
  cases cs with
  | nil => exact single []
  | cons c rest =>
      rw [readOtherBound]
      split
      · exact ((within_readUpperBound verbose first _).mono (skip_suffix verbose rest)).cons c
      · exact single (c :: rest)

theorem agrees_readOtherBound (verbose : Bool) (first : Option Nat) (cs after : List Char) :
    Agrees after cs (readOtherBound verbose first cs)
      (readOtherBound verbose first (cs ++ ')' :: after)) := by
  have single (ds : List Char) : Agrees after ds (first.map fun n => ((n, some n), ds))
      (first.map fun n => ((n, some n), ds ++ ')' :: after)) := by
    cases first with
    | none => exact agrees_none (within_none after)
    | some n => exact agrees_some _ (List.suffix_refl ds)
  cases cs with
  | nil => exact single []
  | cons c rest =>
      rw [List.cons_append, readOtherBound, readOtherBound]
      split
      · refine Agrees.cons (Agrees.skip verbose (within_readUpperBound verbose first) rfl ?_) c
        exact fun ds _ _ => agrees_readUpperBound verbose first ds after
      · exact single (c :: rest)

theorem within_closeBounds (verbose : Bool) (bounds : Nat × Option Nat) (cs : List Char) :
    Within cs (closeBounds verbose bounds cs) := by
  cases cs with
  | nil => exact within_none []
  | cons c rest =>
      rw [closeBounds]
      split
      · exact within_some _ (((skipLazy_suffix _).trans (skip_suffix verbose rest)).trans
          (List.suffix_cons c rest))
      · exact within_none _

theorem agrees_closeBounds (verbose : Bool) (bounds : Nat × Option Nat) (cs after : List Char) :
    Agrees after cs (closeBounds verbose bounds cs)
      (closeBounds verbose bounds (cs ++ ')' :: after)) := by
  cases cs with
  | nil => exact agrees_none (within_none after)
  | cons c rest =>
      rw [List.cons_append, closeBounds, closeBounds]
      split
      · refine Agrees.cons (Agrees.skip verbose (f := fun ds => some (bounds, skipLazy ds))
          (g := fun ds => some (bounds, skipLazy ds))
          (fun ds => within_some bounds (skipLazy_suffix ds)) rfl fun ds _ _ => ?_) c
        rw [skipLazy_append]
        exact agrees_some bounds (skipLazy_suffix ds)
      · exact agrees_none (within_none after)

theorem within_readBounds (verbose : Bool) (cs : List Char) :
    Within cs ((readBounds verbose cs).map regroup) := by
  rw [readBounds_eq]
  exact ((within_readCount verbose _).bind fun first rest =>
    (within_readOtherBound verbose first rest).bind (within_closeBounds verbose)).mono
      (skip_suffix verbose cs)

theorem agrees_readBounds (verbose : Bool) (cs after : List Char) :
    Agrees after cs ((readBounds verbose cs).map regroup)
      ((readBounds verbose (cs ++ ')' :: after)).map regroup) := by
  have inside (first : Option Nat) (rest : List Char) :
      Within rest ((readOtherBound verbose first rest).bind fun q =>
        closeBounds verbose q.1 q.2) :=
    (within_readOtherBound verbose first rest).bind (within_closeBounds verbose)
  rw [readBounds_eq, readBounds_eq]
  refine Agrees.skip verbose
    (f := fun ds => (readCount verbose ds).bind fun p =>
      (readOtherBound verbose p.1 p.2).bind fun q => closeBounds verbose q.1 q.2)
    (g := fun ds => (readCount verbose ds).bind fun p =>
      (readOtherBound verbose p.1 p.2).bind fun q => closeBounds verbose q.1 q.2)
    (fun ds => (within_readCount verbose ds).bind inside) rfl fun ds _ _ => ?_
  refine (agrees_readCount verbose ds after).bind inside (fun _ _ => rfl) fun first rest _ _ => ?_
  exact (agrees_readOtherBound verbose first rest after).bind (within_closeBounds verbose)
    (fun _ _ => rfl) fun bounds rest _ _ => agrees_closeBounds verbose bounds rest after

/-- Without anything left there are no bounds. -/
theorem readBounds_eq_none {verbose : Bool} (nothing : skip verbose cs = []) :
    (readBounds verbose cs).map regroup = none := by
  rw [readBounds_eq, nothing]
  rfl

end ItemScoring.Pattern
