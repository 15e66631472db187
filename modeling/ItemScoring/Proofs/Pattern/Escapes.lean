import ItemScoring.Proofs.Pattern.Continuation

/-!
# Escapes before a closing parenthesis

The readers of code points, properties, boundaries and escapes find the same before a closing
parenthesis as at the end of the text. There is one exception: a boundary before a brace with
nothing but blanks and comments after it is malformed at the end of the text, but a boundary alone
when something else comes next, and the brace is left.
-/

set_option autoImplicit false

namespace ItemScoring.Pattern

variable {after cs : List Char}

/-! ### Code points -/

theorem within_readHexDigits (verbose : Bool) (count value : Nat) (cs : List Char) :
    Within cs (readHexDigits verbose count value cs) := by
  induction count generalizing value cs with
  | zero => exact within_some value (List.suffix_refl cs)
  | succ count ih =>
      cases cs with
      | nil => exact within_none []
      | cons c cs =>
          rw [readHexDigits]
          cases Text.hexDigit? c with
          | none => exact within_none _
          | some d => exact ((ih _ _).mono (skip_suffix verbose cs)).cons c

theorem agrees_readHexDigits (verbose : Bool) (count value : Nat) (cs after : List Char) :
    Agrees after cs (readHexDigits verbose count value cs)
      (readHexDigits verbose count value (cs ++ ')' :: after)) := by
  induction count generalizing value cs with
  | zero => exact agrees_some value (List.suffix_refl cs)
  | succ count ih =>
      cases cs with
      | nil => exact agrees_none (within_none after)
      | cons c cs =>
          rw [List.cons_append, readHexDigits, readHexDigits]
          cases Text.hexDigit? c with
          | none => exact agrees_none (within_none after)
          | some d =>
              refine Agrees.cons (Agrees.skip verbose ?_ rfl fun rest _ _ => ih _ rest) c
              exact within_readHexDigits verbose count _

theorem readHexBrace_skip (verbose : Bool) (fuel : Nat) (value : Option Nat) (cs : List Char) :
    readHexBrace verbose fuel value (skip verbose cs) = readHexBrace verbose fuel value cs := by
  cases fuel with
  | zero => rfl
  | succ fuel => rw [readHexBrace, readHexBrace, skip_skip]

theorem within_readHexBrace (verbose : Bool) (fuel : Nat) (value : Option Nat) (cs : List Char) :
    Within cs (readHexBrace verbose fuel value cs) := by
  induction fuel generalizing value cs with
  | zero => exact within_none cs
  | succ fuel ih =>
      have end_of := skip_suffix verbose cs
      rw [readHexBrace]
      cases skipped : skip verbose cs with
      | nil => exact within_none cs
      | cons c rest =>
          rw [skipped] at end_of
          refine Within.mono ?_ ((List.suffix_cons c rest).trans end_of)
          dsimp only
          split
          · cases value with
            | none => exact within_none rest
            | some n => exact within_some n (skip_suffix verbose rest)
          · cases Text.hexDigit? c with
            | none => exact within_none rest
            | some d => exact ih _ rest

theorem agrees_readHexBrace (verbose : Bool) {n m : Nat} (value : Option Nat) {cs after : List Char}
    (enough : cs.length < n) (more : cs.length + 1 + after.length < m) :
    Agrees after cs (readHexBrace verbose n value cs)
      (readHexBrace verbose m value (cs ++ ')' :: after)) := by
  induction n generalizing m value cs with
  | zero => exact absurd enough (Nat.not_lt_zero _)
  | succ n ih =>
      obtain ⟨m, rfl⟩ := Nat.exists_eq_succ_of_ne_zero (Nat.ne_zero_of_lt more)
      rw [← readHexBrace_skip, ← readHexBrace_skip verbose (m + 1)]
      refine Agrees.skip verbose (within_readHexBrace verbose (m + 1) value) ?_
        fun rest end_of skipped => ?_
      · rw [readHexBrace, readHexBrace, skip_nil]
      rw [readHexBrace, readHexBrace, skip_append skipped, skipped]
      cases rest with
      | nil => exact agrees_none (within_none after)
      | cons c rest =>
          have shorter := end_of.length_le
          rw [List.length_cons] at shorter
          refine Agrees.cons ?_ c
          dsimp only [List.cons_append]
          split
          · cases value with
            | none => exact agrees_none (within_none after)
            | some value => exact agrees_skip value verbose rest after
          · cases Text.hexDigit? c with
            | none => exact agrees_none (within_none after)
            | some d => exact ih _ (by omega) (by omega)

/-- A code point before it is checked: in braces, or with a fixed number of digits. -/
def readHexNumber (verbose : Bool) (digits : Nat) (cs : List Char) : Option (Nat × List Char) :=
  match skip verbose cs with
  | [] => readHexDigits verbose digits 0 []
  | c :: rest =>
    if c = '\x7b' then readHexBrace verbose (rest.length + 1) none rest
    else readHexDigits verbose digits 0 (c :: rest)

theorem readHex_eq (verbose : Bool) (digits : Nat) (cs : List Char) :
    readHex verbose digits cs =
      (readHexNumber verbose digits cs).bind fun p => (charOf? p.1).map fun c => (c, p.2) := by
  have checked : readHex verbose digits cs = (readHexNumber verbose digits cs).bind fun p =>
      (charOf? p.1).bind fun c => some (c, p.2) := by
    rw [readHex, readHexNumber]
    cases skip verbose cs with
    | nil => rfl
    | cons c rest =>
        by_cases brace : c = '\x7b'
        · subst brace
          rfl
        · dsimp only
          rw [if_neg brace]
          split
          case h_1 there =>
              cases there
              exact absurd rfl brace
          case h_2 => rfl
  rw [checked]
  exact Option.bind_congr fun p _ => Option.map_eq_bind.symm

theorem readHexNumber_skip (verbose : Bool) (digits : Nat) (cs : List Char) :
    readHexNumber verbose digits (skip verbose cs) = readHexNumber verbose digits cs := by
  rw [readHexNumber, readHexNumber, skip_skip]

theorem within_readHexNumber (verbose : Bool) (digits : Nat) (cs : List Char) :
    Within cs (readHexNumber verbose digits cs) := by
  refine Within.mono ?_ (skip_suffix verbose cs)
  rw [readHexNumber]
  cases skip verbose cs with
  | nil => exact within_readHexDigits _ _ _ _
  | cons c rest =>
      dsimp only
      split
      · exact (within_readHexBrace _ _ _ rest).cons c
      · exact within_readHexDigits _ _ _ _

theorem agrees_readHexNumber (verbose : Bool) (digits : Nat) (cs after : List Char) :
    Agrees after cs (readHexNumber verbose digits cs)
      (readHexNumber verbose digits (cs ++ ')' :: after)) := by
  rw [← readHexNumber_skip, ← readHexNumber_skip verbose digits (cs ++ _)]
  refine Agrees.skip verbose (within_readHexNumber verbose digits) rfl fun rest _ skipped => ?_
  rw [readHexNumber, readHexNumber, skip_append skipped, skipped]
  cases rest with
  | nil => exact agrees_readHexDigits verbose digits 0 [] after
  | cons c rest =>
      dsimp only [List.cons_append]
      split
      · refine Agrees.cons (agrees_readHexBrace verbose none (Nat.lt_succ_self _) ?_) c
        rw [List.length_append, List.length_cons]
        omega
      · exact agrees_readHexDigits verbose digits 0 (c :: rest) after

theorem within_readHex (verbose : Bool) (digits : Nat) (cs : List Char) :
    Within cs (readHex verbose digits cs) := by
  rw [readHex_eq]
  refine (within_readHexNumber verbose digits cs).bind fun n rest => ?_
  cases made : charOf? n with
  | none => simpa [made] using within_none rest
  | some c => simpa [made] using within_some c (List.suffix_refl rest)

theorem agrees_readHex (verbose : Bool) (digits : Nat) (cs after : List Char) :
    Agrees after cs (readHex verbose digits cs) (readHex verbose digits (cs ++ ')' :: after)) := by
  rw [readHex_eq, readHex_eq]
  exact (agrees_readHexNumber verbose digits cs after).mapValue charOf?

/-- Without anything left there is no code point. -/
theorem readHex_eq_none {verbose : Bool} {digits : Nat} (some_digit : digits ≠ 0)
    (nothing : skip verbose cs = []) : readHex verbose digits cs = none := by
  obtain ⟨digits, rfl⟩ := Nat.exists_eq_succ_of_ne_zero some_digit
  rw [readHex_eq, readHexNumber, nothing]
  rfl

/-! ### Properties -/

theorem readPropertyName_skip (verbose : Bool) (fuel : Nat) (sofar cs : List Char) :
    readPropertyName verbose fuel sofar (skip verbose cs) =
      readPropertyName verbose fuel sofar cs := by
  cases fuel with
  | zero => rfl
  | succ fuel => rw [readPropertyName, readPropertyName, skip_skip]

theorem within_readPropertyName (verbose : Bool) (fuel : Nat) (sofar cs : List Char) :
    Within cs (readPropertyName verbose fuel sofar cs) := by
  induction fuel generalizing sofar cs with
  | zero => exact within_none cs
  | succ fuel ih =>
      refine Within.mono ?_ (skip_suffix verbose cs)
      rw [readPropertyName]
      cases skip verbose cs with
      | nil => exact within_none []
      | cons c rest =>
          dsimp only
          split
          · exact within_some _ (List.suffix_cons c rest)
          · exact (ih _ rest).cons c

theorem agrees_readPropertyName (verbose : Bool) {n m : Nat} (sofar : List Char)
    {cs after : List Char} (enough : cs.length < n) (more : cs.length + 1 + after.length < m) :
    Agrees after cs (readPropertyName verbose n sofar cs)
      (readPropertyName verbose m sofar (cs ++ ')' :: after)) := by
  induction n generalizing m sofar cs with
  | zero => exact absurd enough (Nat.not_lt_zero _)
  | succ n ih =>
      obtain ⟨m, rfl⟩ := Nat.exists_eq_succ_of_ne_zero (Nat.ne_zero_of_lt more)
      rw [← readPropertyName_skip, ← readPropertyName_skip verbose (m + 1)]
      refine Agrees.skip verbose (within_readPropertyName verbose (m + 1) sofar) ?_
        fun rest end_of skipped => ?_
      · rw [readPropertyName, readPropertyName, skip_nil]
      rw [readPropertyName, readPropertyName, skip_append skipped, skipped]
      cases rest with
      | nil => exact agrees_none (within_readPropertyName verbose m (')' :: sofar) after)
      | cons c rest =>
          have shorter := end_of.length_le
          rw [List.length_cons] at shorter
          refine Agrees.cons ?_ c
          dsimp only [List.cons_append]
          split
          · exact agrees_some _ (List.suffix_refl rest)
          · exact ih _ (by omega) (by omega)

theorem readProperty_skip (verbose : Bool) (cs : List Char) :
    readProperty verbose (skip verbose cs) = readProperty verbose cs := by
  rw [readProperty, readProperty, skip_skip]

theorem within_readProperty (verbose : Bool) (cs : List Char) :
    Within cs (readProperty verbose cs) := by
  refine Within.mono ?_ (skip_suffix verbose cs)
  rw [readProperty]
  cases skip verbose cs with
  | nil => exact within_none []
  | cons c rest =>
      refine Within.cons ?_ c
      dsimp only
      split
      · exact within_readPropertyName _ _ _ rest
      split
      · exact within_none rest
      · exact within_some _ (skip_suffix verbose rest)

theorem agrees_readProperty (verbose : Bool) (cs after : List Char) :
    Agrees after cs (readProperty verbose cs) (readProperty verbose (cs ++ ')' :: after)) := by
  rw [← readProperty_skip, ← readProperty_skip verbose (cs ++ _)]
  refine Agrees.skip verbose (within_readProperty verbose) rfl fun rest _ skipped => ?_
  rw [readProperty, readProperty, skip_append skipped, skipped]
  cases rest with
  | nil => exact agrees_none (within_some _ (skip_suffix verbose after))
  | cons c rest =>
      refine Agrees.cons ?_ c
      dsimp only [List.cons_append]
      split
      · refine agrees_readPropertyName verbose [] (Nat.lt_succ_self _) ?_
        rw [List.length_append, List.length_cons]
        omega
      split
      · exact agrees_none (within_none after)
      · exact agrees_skip (String.singleton c) verbose rest after

/-! ### Boundaries -/

theorem within_readBoundaryName (verbose : Bool) (fuel : Nat) (sofar cs : List Char) :
    Within cs (some (readBoundaryName verbose fuel sofar cs)) := by
  induction fuel generalizing sofar cs with
  | zero => exact within_some _ (List.suffix_refl cs)
  | succ fuel ih =>
      cases cs with
      | nil => exact within_some _ (List.suffix_refl [])
      | cons c cs =>
          rw [readBoundaryName]
          split
          · exact ((ih _ _).mono (skip_suffix verbose cs)).cons c
          · exact within_some _ (List.suffix_refl _)

theorem readBoundaryName_nil (verbose : Bool) (fuel : Nat) (sofar : List Char) :
    readBoundaryName verbose fuel sofar [] = (sofar.reverse, []) := by
  cases fuel with
  | zero => rfl
  | succ fuel => rfl

theorem agrees_readBoundaryName (verbose : Bool) {n m : Nat} (sofar : List Char)
    {cs after : List Char} (enough : cs.length ≤ n) (more : cs.length + 1 + after.length ≤ m) :
    Agrees after cs (some (readBoundaryName verbose n sofar cs))
      (some (readBoundaryName verbose m sofar (cs ++ ')' :: after))) := by
  induction n generalizing m sofar cs with
  | zero =>
      obtain rfl : cs = [] := List.length_eq_zero_iff.mp (Nat.le_zero.mp enough)
      obtain ⟨m, rfl⟩ := Nat.exists_eq_succ_of_ne_zero (show m ≠ 0 by omega)
      exact agrees_some sofar.reverse (List.suffix_refl [])
  | succ n ih =>
      obtain ⟨m, rfl⟩ := Nat.exists_eq_succ_of_ne_zero (show m ≠ 0 by omega)
      cases cs with
      | nil => exact agrees_some sofar.reverse (List.suffix_refl [])
      | cons c cs =>
          rw [List.length_cons] at enough more
          rw [List.cons_append, readBoundaryName, readBoundaryName]
          split
          · refine Agrees.cons ?_ c
            refine Agrees.skip verbose
              (f := fun ds => some (readBoundaryName verbose n (c :: sofar) ds))
              (g := fun ds => some (readBoundaryName verbose m (c :: sofar) ds))
              (within_readBoundaryName verbose m _) ?_ fun rest end_of _ => ?_
            · rw [readBoundaryName_nil, readBoundaryName_nil]
            · have shorter := end_of.length_le
              exact ih _ (by omega) (by omega)
          · exact agrees_some sofar.reverse (List.suffix_refl (c :: cs))

/-- The boundary with the name that was read, after its closing brace. -/
def closeBoundary : List Char × List Char → Option (Assertion × List Char)
  | (name, '\x7d' :: after) => (boundaryOfName? name).map fun a => (a, after)
  | _ => none

theorem within_closeBoundary (name rest : List Char) :
    Within rest (closeBoundary (name, rest)) := by
  rw [closeBoundary.eq_def]
  split
  case h_1 there =>
      cases there
      cases boundaryOfName? name with
      | none => exact within_none _
      | some a => exact within_some a (List.suffix_cons _ _)
  case h_2 => exact within_none _

theorem agrees_closeBoundary (name rest after : List Char) :
    Agrees after rest (closeBoundary (name, rest))
      (closeBoundary (name, rest ++ ')' :: after)) := by
  cases rest with
  | nil => exact agrees_none (within_none after)
  | cons c rest =>
      by_cases brace : c = '\x7d'
      · subst brace
        cases made : boundaryOfName? name with
        | none => simpa [closeBoundary, made] using agrees_none (within_none after)
        | some a =>
            have same : Agrees after ('\x7d' :: rest) (some (a, rest)) _ :=
              agrees_some a (List.suffix_cons '\x7d' rest)
            simpa [closeBoundary, made] using same
      · simpa [closeBoundary, brace] using agrees_none (within_none after)

/-- A boundary after its letter and its opening brace, where its name follows. -/
def readNamedBoundary (verbose : Bool) (cs : List Char) : Option (Assertion × List Char) :=
  (some (readBoundaryName verbose cs.length [] cs)).bind closeBoundary

theorem within_readNamedBoundary (verbose : Bool) (cs : List Char) :
    Within cs (readNamedBoundary verbose cs) :=
  (within_readBoundaryName verbose cs.length [] cs).bind within_closeBoundary

theorem agrees_readNamedBoundary (verbose : Bool) (cs after : List Char) :
    Agrees after cs (readNamedBoundary verbose cs)
      (readNamedBoundary verbose (cs ++ ')' :: after)) := by
  refine (agrees_readBoundaryName verbose [] (Nat.le_refl _) ?_).bind within_closeBoundary
    (fun _ _ => rfl) fun name rest _ _ => agrees_closeBoundary name rest after
  rw [List.length_append, List.length_cons]
  omega

theorem readBoundary_of_ne {c : Char} (other : c ≠ '\x7b') (verbose : Bool) (cs : List Char) :
    readBoundary verbose (c :: cs) = some (.wordBoundary, c :: cs) := by
  rw [readBoundary.eq_def]
  split
  case h_1 there =>
      cases there
      exact absurd rfl other
  case h_2 => rfl

theorem readBoundary_brace (verbose : Bool) (cs : List Char) :
    readBoundary verbose ('\x7b' :: cs) =
      match skip verbose cs with
      | [] => none
      | c :: inner =>
        if isBoundaryChar c then readNamedBoundary verbose (c :: inner)
        else some (.wordBoundary, '\x7b' :: cs) := by
  rfl

theorem within_readBoundary (verbose : Bool) (cs : List Char) :
    Within cs (readBoundary verbose cs) := by
  cases cs with
  | nil => exact within_some _ (List.suffix_refl [])
  | cons c cs =>
      by_cases brace : c = '\x7b'
      · subst brace
        have end_of := (skip_suffix verbose cs).trans (List.suffix_cons '\x7b' cs)
        rw [readBoundary_brace]
        cases skipped : skip verbose cs with
        | nil => exact within_none _
        | cons d inner =>
            rw [skipped] at end_of
            dsimp only
            split
            · exact (within_readNamedBoundary verbose (d :: inner)).mono end_of
            · exact within_some _ (List.suffix_refl _)
      · rw [readBoundary_of_ne brace]
        exact within_some _ (List.suffix_refl _)

/-- A boundary before a closing parenthesis is read as at the end of the text, or it stands before
an opening brace that nothing follows. -/
theorem agrees_readBoundary (verbose : Bool) (cs after : List Char) :
    Agrees after cs (readBoundary verbose cs) (readBoundary verbose (cs ++ ')' :: after)) ∨
      ∃ rest, cs = '\x7b' :: rest ∧ skip verbose rest = [] ∧ readBoundary verbose cs = none ∧
        readBoundary verbose (cs ++ ')' :: after) = some (.wordBoundary, cs ++ ')' :: after) := by
  cases cs with
  | nil => exact Or.inl (agrees_some _ (List.suffix_refl []))
  | cons c cs =>
      by_cases brace : c = '\x7b'
      · subst brace
        rw [List.cons_append, readBoundary_brace, readBoundary_brace]
        cases skipped : skip verbose cs with
        | nil =>
            have left := skip_append_of_eq_nil skipped after
            cases following : skip verbose (cs ++ ')' :: after) with
            | nil => exact Or.inl (agrees_none (within_none after))
            | cons d inner =>
                dsimp only
                by_cases letter : isBoundaryChar d = true
                · rw [following] at left
                  have inside : d :: inner <:+ after := left.resolve_left fun closing => by
                    cases closing
                    exact absurd letter (by decide)
                  rw [if_pos letter]
                  exact Or.inl (agrees_none ((within_readNamedBoundary verbose _).mono inside))
                · rw [if_neg letter]
                  exact Or.inr ⟨cs, rfl, skipped, rfl, rfl⟩
        | cons d inner =>
            have end_of := (skip_suffix verbose cs).trans (List.suffix_cons '\x7b' cs)
            rw [skipped] at end_of
            rw [skip_append_of_ne_nil (by simp [skipped]), skipped]
            dsimp only [List.cons_append]
            refine Or.inl ?_
            split
            · exact (agrees_readNamedBoundary verbose (d :: inner) after).mono end_of
            · exact agrees_some _ (List.suffix_refl ('\x7b' :: cs))
      · rw [List.cons_append, readBoundary_of_ne brace, readBoundary_of_ne brace]
        exact Or.inl (agrees_some _ (List.suffix_refl (c :: cs)))

/-! ### Escapes -/

theorem hexDigitsOfLetter?_ne_zero {c : Char} {digits : Nat}
    (announced : hexDigitsOfLetter? c = some digits) : digits ≠ 0 := by
  unfold hexDigitsOfLetter? at announced
  split at announced
  · cases announced
    decide
  split at announced
  · cases announced
    decide
  split at announced
  · cases announced
    decide
  · cases announced

theorem within_readEscape (verbose : Bool) (cs : List Char) :
    Within cs (readEscape verbose cs) := by
  cases cs with
  | nil => exact within_none []
  | cons c cs =>
      refine Within.cons ?_ c
      rw [readEscape]
      split
      · exact (within_readHex verbose _ cs).map fun d => Atom.literal d (isByteEscape verbose c cs)
      split
      · exact (within_readProperty verbose cs).map fun name => Atom.property name (c = 'P')
      split
      · exact within_some _ (List.suffix_refl cs)
      split
      · exact within_some _ (List.suffix_refl cs)
      split
      · exact within_some _ (List.suffix_refl cs)
      split
      · exact (within_readBoundary verbose cs).map Atom.assertion
      · cases assertionOfLetter? c with
        | none => exact within_none cs
        | some a => exact within_some _ (List.suffix_refl cs)

theorem isByteEscape_append {verbose : Bool} (left : skip verbose cs ≠ []) (letter : Char)
    (after : List Char) :
    isByteEscape verbose letter (cs ++ ')' :: after) = isByteEscape verbose letter cs := by
  rw [isByteEscape, isByteEscape, skip_append_of_ne_nil left]
  cases skipped : skip verbose cs with
  | nil => exact absurd skipped left
  | cons c rest => rfl

/-- An escape before a closing parenthesis is read as at the end of the text, or it is a boundary
before an opening brace that nothing follows. -/
theorem agrees_readEscape (verbose : Bool) (cs after : List Char) :
    Agrees after cs (readEscape verbose cs) (readEscape verbose (cs ++ ')' :: after)) ∨
      ∃ rest, cs = 'b' :: '\x7b' :: rest ∧ skip verbose rest = [] ∧ readEscape verbose cs = none ∧
        readEscape verbose (cs ++ ')' :: after) =
          some (.assertion .wordBoundary, '\x7b' :: rest ++ ')' :: after) := by
  cases cs with
  | nil => exact Or.inl (agrees_none (within_some _ (List.suffix_refl after)))
  | cons c cs =>
      rw [List.cons_append, readEscape, readEscape]
      split
      next digits announced =>
        refine Or.inl (Agrees.cons ?_ c)
        have same := agrees_readHex verbose digits cs after
        by_cases nothing : skip verbose cs = []
        · have missing := readHex_eq_none (hexDigitsOfLetter?_ne_zero announced) nothing
          rw [missing]
          exact agrees_none ((same.within missing).map fun d =>
            Atom.literal d (isByteEscape verbose c (cs ++ ')' :: after)))
        · rw [isByteEscape_append nothing]
          exact same.map fun d => Atom.literal d (isByteEscape verbose c cs)
      split
      · exact Or.inl (((agrees_readProperty verbose cs after).map fun name =>
          Atom.property name (c = 'P')).cons c)
      split
      · exact Or.inl (agrees_some _ (List.suffix_cons c cs))
      split
      · exact Or.inl (agrees_some _ (List.suffix_cons c cs))
      split
      · exact Or.inl (agrees_some _ (List.suffix_cons c cs))
      split
      next letter =>
        subst letter
        rcases agrees_readBoundary verbose cs after with same | ⟨rest, rfl, nothing, hx, hy⟩
        · exact Or.inl ((same.map Atom.assertion).cons 'b')
        · rw [hx, hy]
          exact Or.inr ⟨rest, rfl, nothing, rfl, rfl⟩
      · cases assertionOfLetter? c with
        | none => exact Or.inl (agrees_none (within_none after))
        | some a => exact Or.inl (agrees_some _ (List.suffix_cons c cs))

end ItemScoring.Pattern
