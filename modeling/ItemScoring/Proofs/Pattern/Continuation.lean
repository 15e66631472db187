import ItemScoring.Pattern.Reader

/-!
# Texts that go on after a pattern

A reader of a part of a pattern is run on a text, and on the same text with a closing parenthesis
and more after it. What it finds in the short text it finds in the long one, too, and what is left
is longer by what was added, unless the short text ends in a comment: then the closing parenthesis
belongs to the comment, and so does everything up to the end of the line. Where the short text is
malformed, whatever the reader finds in the long one takes the closing parenthesis with it.

That is shown here for steps and their composition, and for the readers of single characters.
-/

set_option autoImplicit false

namespace ItemScoring.Pattern

/-- What a reader leaves is the end of what it was given. -/
def Within {α : Type} (cs : List Char) (x : Option (α × List Char)) : Prop :=
  ∀ v rest, x = some (v, rest) → rest <:+ cs

/-- How what is read of a text (`x`) compares with what is read when a closing parenthesis and more
(`after`) comes next (`y`): the same is found; or the same was found at the end of a comment, which
goes on; or nothing was found, and the closing parenthesis does not stay. -/
def Agrees {α : Type} (after cs : List Char) (x y : Option (α × List Char)) : Prop :=
  (∃ v rest, x = some (v, rest) ∧ rest <:+ cs ∧ y = some (v, rest ++ ')' :: after)) ∨
    (∃ v, x = some (v, []) ∧ '#' ∈ cs ∧ Within after y ∧ ('\n' ∉ after → y = some (v, []))) ∨
    (x = none ∧ Within after y)

/-- Three values of which the last is what is left. -/
def regroup {α β γ : Type} (p : α × β × γ) : (α × β) × γ := ((p.1, p.2.1), p.2.2)

variable {α β : Type} {after cs ds : List Char}

/-! ### What is left -/

theorem within_none (cs : List Char) : Within cs (none : Option (α × List Char)) :=
  fun _ _ found => nomatch found

theorem within_some (v : α) {rest : List Char} (end_of : rest <:+ cs) :
    Within cs (some (v, rest)) := by
  rintro _ _ ⟨⟩
  exact end_of

theorem Within.mono {x : Option (α × List Char)} (inner : Within cs x) (end_of : cs <:+ ds) :
    Within ds x :=
  fun v rest found => (inner v rest found).trans end_of

theorem Within.cons {x : Option (α × List Char)} (inner : Within cs x) (c : Char) :
    Within (c :: cs) x :=
  inner.mono (List.suffix_cons c cs)

theorem Within.bind {x : Option (α × List Char)} {next : α × List Char → Option (β × List Char)}
    (inner : Within cs x) (further : ∀ v rest, Within rest (next (v, rest))) :
    Within cs (x.bind next) := by
  intro w rest found
  obtain ⟨⟨v, middle⟩, first, second⟩ := Option.bind_eq_some_iff.mp found
  exact (further v middle w rest second).trans (inner v middle first)

theorem Within.map {x : Option (α × List Char)} (inner : Within cs x) (make : α → β) :
    Within cs (x.map fun p => (make p.1, p.2)) := by
  rw [Option.map_eq_bind]
  exact inner.bind fun v rest => within_some (make v) (List.suffix_refl rest)

theorem Within.ite {p : Prop} [Decidable p] {x y : Option (α × List Char)}
    (yes : p → Within cs x) (no : ¬ p → Within cs y) : Within cs (if p then x else y) := by
  by_cases h : p
  · rw [if_pos h]
    exact yes h
  · rw [if_neg h]
    exact no h

/-! ### What is found -/

theorem agrees_some (v : α) {rest : List Char} (end_of : rest <:+ cs) :
    Agrees after cs (some (v, rest)) (some (v, rest ++ ')' :: after)) :=
  Or.inl ⟨v, rest, rfl, end_of, rfl⟩

theorem agrees_none {y : Option (α × List Char)} (inside : Within after y) :
    Agrees after cs none y :=
  Or.inr (Or.inr ⟨rfl, inside⟩)

/-- Where nothing was found at the end of the text, the closing parenthesis does not stay. -/
theorem Agrees.within {x y : Option (α × List Char)} (same : Agrees after cs x y)
    (nothing : x = none) : Within after y := by
  rcases same with ⟨v, rest, hx, -⟩ | ⟨v, hx, -⟩ | ⟨-, hy⟩
  · exact nomatch hx.symm.trans nothing
  · exact nomatch hx.symm.trans nothing
  · exact hy

/-- Where something is left of the text, what comes after it makes no difference. -/
theorem Agrees.eq_of_left {x y : Option (α × List Char)} (same : Agrees after cs x y) {v : α}
    {rest : List Char} (found : x = some (v, rest)) (left : rest ≠ []) :
    y = some (v, rest ++ ')' :: after) := by
  rcases same with ⟨w, ds, hx, -, hy⟩ | ⟨w, hx, -⟩ | ⟨hx, -⟩
  · cases found.symm.trans hx
    exact hy
  · cases found.symm.trans hx
    exact absurd rfl left
  · cases found.symm.trans hx

theorem Agrees.mono {x y : Option (α × List Char)} (same : Agrees after cs x y)
    (end_of : cs <:+ ds) : Agrees after ds x y := by
  rcases same with ⟨v, rest, hx, inside, hy⟩ | ⟨v, hx, comment, hy, quiet⟩ | ⟨hx, hy⟩
  · exact Or.inl ⟨v, rest, hx, inside.trans end_of, hy⟩
  · exact Or.inr (Or.inl ⟨v, hx, end_of.mem comment, hy, quiet⟩)
  · exact Or.inr (Or.inr ⟨hx, hy⟩)

theorem Agrees.cons {x y : Option (α × List Char)} (same : Agrees after cs x y) (c : Char) :
    Agrees after (c :: cs) x y :=
  same.mono (List.suffix_cons c cs)

/-- Two readers that make the same choice agree when they agree on either side of it. -/
theorem Agrees.ite {p : Prop} [Decidable p] {x y x' y' : Option (α × List Char)}
    (yes : p → Agrees after cs x y) (no : ¬ p → Agrees after cs x' y') :
    Agrees after cs (if p then x else x') (if p then y else y') := by
  by_cases h : p
  · rw [if_pos h, if_pos h]
    exact yes h
  · rw [if_neg h, if_neg h]
    exact no h

/-- Where two readers agree and so do those that go on from what they leave, both together agree. At
the end of the text, where a comment may have swallowed what comes next, those that go on have to do
the same. -/
theorem Agrees.bind {x y : Option (α × List Char)}
    {f g : α × List Char → Option (β × List Char)} (first : Agrees after cs x y)
    (inside : ∀ v rest, Within rest (g (v, rest)))
    (still : ∀ v, x = some (v, []) → f (v, []) = g (v, []))
    (next : ∀ v rest, x = some (v, rest) → rest <:+ cs →
      Agrees after rest (f (v, rest)) (g (v, rest ++ ')' :: after))) :
    Agrees after cs (x.bind f) (y.bind g) := by
  rcases first with ⟨v, rest, hx, end_of, rfl⟩ | ⟨v, hx, comment, hy, quiet⟩ | ⟨rfl, hy⟩
  · have onward := (next v rest hx end_of).mono end_of
    rw [hx]
    exact onward
  · have same := still v hx
    rw [hx, Option.bind_some, same]
    cases found : g (v, []) with
    | none => exact agrees_none (hy.bind inside)
    | some w =>
        obtain ⟨w, rest⟩ := w
        obtain rfl := List.suffix_nil.mp (inside v [] w rest found)
        refine Or.inr (Or.inl ⟨w, rfl, comment, hy.bind inside, fun line => ?_⟩)
        rw [quiet line, Option.bind_some, found]
  · exact agrees_none (hy.bind inside)

/-- What is made of what was found does not matter, nor whether anything can be made of it. -/
theorem Agrees.mapValue {x y : Option (α × List Char)} (same : Agrees after cs x y)
    (make : α → Option β) :
    Agrees after cs (x.bind fun p => (make p.1).map fun w => (w, p.2))
      (y.bind fun p => (make p.1).map fun w => (w, p.2)) := by
  refine same.bind (fun v rest => ?_) (fun _ _ => rfl) fun v rest _ _ => ?_
  · cases made : make v with
    | none => simpa [made] using within_none rest
    | some w => simpa [made] using within_some w (List.suffix_refl rest)
  · cases made : make v with
    | none => simpa [made] using agrees_none (within_none after)
    | some w => simpa [made] using agrees_some w (List.suffix_refl rest)

theorem Agrees.map {x y : Option (α × List Char)} (same : Agrees after cs x y) (make : α → β) :
    Agrees after cs (x.map fun p => (make p.1, p.2)) (y.map fun p => (make p.1, p.2)) := by
  rw [Option.map_eq_bind, Option.map_eq_bind]
  exact same.mapValue fun v => some (make v)

/-! ### Blanks and comments -/

theorem skipIgnored_suffix (inComment : Bool) (cs : List Char) :
    skipIgnored inComment cs <:+ cs := by
  induction cs generalizing inComment with
  | nil => exact List.suffix_refl []
  | cons c cs ih =>
      rw [skipIgnored]
      split
      · exact (ih _).trans (List.suffix_cons c cs)
      split
      · exact (ih _).trans (List.suffix_cons c cs)
      split
      · exact (ih _).trans (List.suffix_cons c cs)
      · exact List.suffix_refl _

theorem skip_suffix (verbose : Bool) (cs : List Char) : skip verbose cs <:+ cs := by
  cases verbose with
  | false => exact List.suffix_refl cs
  | true => exact skipIgnored_suffix false cs

/-- A comment without the end of a line goes on to the end of the text. -/
theorem skipIgnored_comment (line : '\n' ∉ cs) : skipIgnored true cs = [] := by
  induction cs with
  | nil => rfl
  | cons c cs ih =>
      obtain ⟨other, rest⟩ := not_or.mp (mt List.mem_cons.mpr line)
      rw [skipIgnored, if_pos rfl, decide_eq_true (Ne.symm other), ih rest]

/-- What is skipped is skipped at once. -/
theorem skipIgnored_skipIgnored (inComment : Bool) (cs : List Char) :
    skipIgnored false (skipIgnored inComment cs) = skipIgnored inComment cs := by
  induction cs generalizing inComment with
  | nil => rfl
  | cons c cs ih =>
      rw [skipIgnored]
      split
      · exact ih _
      split
      · exact ih _
      split
      · exact ih _
      · simp_all [skipIgnored]

theorem skip_skip (verbose : Bool) (cs : List Char) :
    skip verbose (skip verbose cs) = skip verbose cs := by
  cases verbose with
  | false => rfl
  | true => exact skipIgnored_skipIgnored false cs

@[simp]
theorem skip_nil (verbose : Bool) : skip verbose [] = [] := by
  cases verbose with
  | false => rfl
  | true => rfl

/-- Nothing is skipped at a closing parenthesis. -/
@[simp]
theorem skip_closing (verbose : Bool) (after : List Char) :
    skip verbose (')' :: after) = ')' :: after := by
  cases verbose with
  | false => rfl
  | true => rfl

/-- Nothing is skipped at an opening brace. -/
theorem skip_brace (verbose : Bool) (cs : List Char) :
    skip verbose ('\x7b' :: cs) = '\x7b' :: cs := by
  cases verbose with
  | false => rfl
  | true => rfl

/-- What is skipped before a closing parenthesis: the same as at the end of the text, but for a
comment, which goes on. -/
theorem skipIgnored_append (inComment : Bool) (cs after : List Char) :
    skipIgnored inComment (cs ++ ')' :: after) = skipIgnored inComment cs ++ ')' :: after ∨
      (skipIgnored inComment cs = [] ∧ (inComment = true ∨ '#' ∈ cs) ∧
        skipIgnored inComment (cs ++ ')' :: after) <:+ after ∧
        ('\n' ∉ after → skipIgnored inComment (cs ++ ')' :: after) = [])) := by
  induction cs generalizing inComment with
  | nil =>
      cases inComment with
      | false => exact Or.inl rfl
      | true =>
          exact Or.inr ⟨rfl, Or.inl rfl, skipIgnored_suffix true after, skipIgnored_comment⟩
  | cons c cs ih =>
      rw [List.cons_append, skipIgnored, skipIgnored]
      by_cases commented : inComment = true
      · rw [if_pos commented, if_pos commented]
        exact (ih _).imp_right fun ⟨nil, _, rest⟩ => ⟨nil, Or.inl commented, rest⟩
      rw [if_neg commented, if_neg commented]
      by_cases blank : Text.isBlank c = true
      · rw [if_pos blank, if_pos blank]
        exact (ih false).imp_right fun ⟨nil, comment, rest⟩ =>
          ⟨nil, Or.inr (List.mem_cons_of_mem c (comment.resolve_left Bool.false_ne_true)), rest⟩
      rw [if_neg blank, if_neg blank]
      by_cases sign : c = '#'
      · rw [if_pos sign, if_pos sign]
        exact (ih true).imp_right fun ⟨nil, _, rest⟩ =>
          ⟨nil, Or.inr (sign ▸ List.mem_cons_self), rest⟩
      · rw [if_neg sign, if_neg sign]
        exact Or.inl rfl

/-- Nothing is skipped before a closing parenthesis where nothing is skipped at the end. -/
theorem skip_append {verbose : Bool} (skipped : skip verbose cs = cs) (after : List Char) :
    skip verbose (cs ++ ')' :: after) = cs ++ ')' :: after := by
  cases verbose with
  | false => rfl
  | true =>
      rcases skipIgnored_append false cs after with same | ⟨nil, comment, -⟩
      · exact same.trans (congrArg (· ++ ')' :: after) skipped)
      · obtain rfl : cs = [] := skipped.symm.trans nil
        exact absurd (comment.resolve_left Bool.false_ne_true) List.not_mem_nil

/-- Where something is left after skipping, the same is left before a closing parenthesis. -/
theorem skip_append_of_ne_nil {verbose : Bool} (left : skip verbose cs ≠ []) (after : List Char) :
    skip verbose (cs ++ ')' :: after) = skip verbose cs ++ ')' :: after := by
  cases verbose with
  | false => rfl
  | true => exact (skipIgnored_append false cs after).resolve_right fun h => left h.1

/-- Where everything is skipped, a closing parenthesis is what is left, unless it is skipped too. -/
theorem skip_append_of_eq_nil {verbose : Bool} (nothing : skip verbose cs = [])
    (after : List Char) :
    skip verbose (cs ++ ')' :: after) = ')' :: after ∨
      skip verbose (cs ++ ')' :: after) <:+ after := by
  cases verbose with
  | false =>
      obtain rfl : cs = [] := nothing
      exact Or.inl rfl
  | true =>
      rcases skipIgnored_append false cs after with same | ⟨-, -, inside, -⟩
      · exact Or.inl (same.trans (congrArg (· ++ ')' :: after) nothing))
      · exact Or.inr inside

/-- Skipping is itself a reader that does the same before a closing parenthesis. -/
theorem agrees_skip (v : α) (verbose : Bool) (cs after : List Char) :
    Agrees after cs (some (v, skip verbose cs)) (some (v, skip verbose (cs ++ ')' :: after))) := by
  cases verbose with
  | false => exact agrees_some v (List.suffix_refl cs)
  | true =>
      rw [skip, skip, if_pos rfl, if_pos rfl]
      rcases skipIgnored_append false cs after with same | ⟨nil, comment, inside, quiet⟩
      · rw [same]
        exact agrees_some v (skipIgnored_suffix false cs)
      · rw [nil]
        refine Or.inr (Or.inl ⟨v, rfl, comment.resolve_left Bool.false_ne_true,
          within_some v inside, fun line => ?_⟩)
        rw [quiet line]

/-- Where two readers agree on texts of which nothing is to be skipped, they agree after skipping.
-/
theorem Agrees.skip {f g : List Char → Option (β × List Char)} (verbose : Bool)
    (inside : ∀ rest, Within rest (g rest)) (still : f [] = g [])
    (next : ∀ rest, rest <:+ cs → Pattern.skip verbose rest = rest →
      Agrees after rest (f rest) (g (rest ++ ')' :: after))) :
    Agrees after cs (f (Pattern.skip verbose cs))
      (g (Pattern.skip verbose (cs ++ ')' :: after))) := by
  refine (agrees_skip () verbose cs after).bind (f := fun p => f p.2) (g := fun p => g p.2)
    (fun _ => inside) (fun _ _ => still) fun v rest found end_of => next rest end_of ?_
  cases found
  exact skip_skip verbose cs

end ItemScoring.Pattern
