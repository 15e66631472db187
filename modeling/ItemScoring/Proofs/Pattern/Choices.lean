import ItemScoring.Proofs.Pattern.Bounds
import ItemScoring.Proofs.Pattern.Groups
import ItemScoring.Proofs.Pattern.Sets

/-!
# Choices before a closing parenthesis

A choice ends before a closing parenthesis as it ends with the text, unless the text ends in a
comment, which takes the closing parenthesis. A group that is still open at the end of the text is
closed by it. Apart from that, one step of a choice is described by what it adds to the branches and
the items read so far: from this follows what a choice leaves and how deeply its parts are nested.
-/

set_option autoImplicit false

namespace ItemScoring.Pattern

variable {after cs : List Char}

/-! ### Steps -/

/-- A choice, with what is left as the last of two values. -/
def readPart (fuel : Nat) (r : Reading) (branches items : List Tree) (cs : List Char) :
    Option ((Tree × Reading) × List Char) :=
  (readChoice fuel r branches items cs).map regroup

/-- Go on after a closing parenthesis. -/
def afterClosing {α : Type} (next : List Char → Option α) : List Char → Option α
  | [] => none
  | c :: rest => if c = ')' then next rest else none

/-- A group after its opening parenthesis, and what comes after the group. The group is read with
flags and names of its own (`inside`); the names are kept. -/
def readGroup (fuel : Nat) (r inside : Reading) (change : FlagChange) (branches items : List Tree)
    (cs : List Char) : Option ((Tree × Reading) × List Char) :=
  (readPart fuel inside [] [] cs).bind fun p =>
    afterClosing (readPart fuel { p.1.2 with verbose := r.verbose } branches
      (.group change p.1.1 :: items)) p.2

/-- What an opening parenthesis begins, and what comes after it. -/
def readOpened (fuel : Nat) (r : Reading) (branches items : List Tree) (opening : Opening)
    (cs : List Char) : Option ((Tree × Reading) × List Char) :=
  match opening with
  | .flags change =>
    readPart fuel { r with verbose := change.verbose.getD r.verbose } branches
      (.flags change :: items) cs
  | .group change =>
    readGroup fuel r { r with verbose := change.verbose.getD r.verbose } change branches items cs
  | .named name =>
    if r.names.contains name then none
    else readGroup fuel r { r with names := name :: r.names } .none branches items cs

/-- The pattern that a character stands for where it has no other meaning. -/
def singleTree (c : Char) : Tree :=
  if c = '.' then .dot
  else if c = '^' then .assertion .lineStart
  else if c = '$' then .assertion .lineEnd
  else .literal c false

/-- The tree of a choice of which the branches and the items of the last branch have been read. -/
def finished (branches items : List Tree) : Tree :=
  .ofAlternation (Tree.ofSequence items.reverse :: branches).reverse

theorem readGroup_eq (fuel : Nat) (r inside : Reading) (change : FlagChange)
    (branches items : List Tree) (cs : List Char) :
    (match readChoice fuel inside [] [] cs with
      | some (t, inner, ')' :: rest) =>
        readChoice fuel { inner with verbose := r.verbose } branches (.group change t :: items) rest
      | _ => none).map regroup = readGroup fuel r inside change branches items cs := by
  rw [readGroup, readPart]
  cases readChoice fuel inside [] [] cs with
  | none => rfl
  | some p =>
      obtain ⟨t, inner, rest⟩ := p
      cases rest with
      | nil => rfl
      | cons c rest =>
          by_cases closing : c = ')'
          · subst closing
            rfl
          · refine Eq.trans ?_ (if_neg closing).symm
            split
            case h_1 there =>
                cases there
                exact absurd rfl closing
            case h_2 => rfl

theorem readPart_succ (fuel : Nat) (r : Reading) (branches items : List Tree) (cs : List Char) :
    readPart (fuel + 1) r branches items cs =
      match skip r.verbose cs with
      | [] => some ((finished branches items, r), [])
      | c :: rest =>
        if c = ')' then some ((finished branches items, r), c :: rest)
        else if c = '|' then readPart fuel r (Tree.ofSequence items.reverse :: branches) [] rest
        else if c = '(' then
          (readOpening r.verbose rest).bind fun p => readOpened fuel r branches items p.1 p.2
        else if c = '[' then
          (readSet r.verbose rest).bind fun p => readPart fuel r branches (p.1 :: items) p.2
        else if c = '?' then
          (repeatLast 0 (some 1) items).bind fun items =>
            readPart fuel r branches items (skipLazy rest)
        else if c = '*' then
          (repeatLast 0 none items).bind fun items =>
            readPart fuel r branches items (skipLazy rest)
        else if c = '+' then
          (repeatLast 1 none items).bind fun items =>
            readPart fuel r branches items (skipLazy rest)
        else if c = '\x7b' then
          ((readBounds r.verbose rest).map regroup).bind fun p =>
            (repeatLast p.1.1 p.1.2 items).bind fun items => readPart fuel r branches items p.2
        else if c = '\\' then
          (readEscape r.verbose rest).bind fun p =>
            readPart fuel r branches (p.1.tree :: items) p.2
        else readPart fuel r branches (singleTree c :: items) rest := by
  rw [readPart, readChoice]
  cases skip r.verbose cs with
  | nil => rfl
  | cons c rest =>
      dsimp only
      by_cases h : c = ')'
      · rw [if_pos h, if_pos h]
        rfl
      rw [if_neg h, if_neg h]
      by_cases h : c = '|'
      · rw [if_pos h, if_pos h]
        rfl
      rw [if_neg h, if_neg h]
      by_cases h : c = '('
      · rw [if_pos h, if_pos h]
        cases readOpening r.verbose rest with
        | none => rfl
        | some p =>
            obtain ⟨opening, rest⟩ := p
            cases opening with
            | flags change => rfl
            | group change => exact readGroup_eq _ _ _ _ _ _ _
            | named name =>
                rw [Option.bind_some, readOpened]
                dsimp only
                split
                · rfl
                · exact readGroup_eq _ _ _ _ _ _ _
      rw [if_neg h, if_neg h]
      by_cases h : c = '['
      · rw [if_pos h, if_pos h]
        cases readSet r.verbose rest <;> rfl
      rw [if_neg h, if_neg h]
      by_cases h : c = '?'
      · rw [if_pos h, if_pos h]
        cases repeatLast 0 (some 1) items <;> rfl
      rw [if_neg h, if_neg h]
      by_cases h : c = '*'
      · rw [if_pos h, if_pos h]
        cases repeatLast 0 none items <;> rfl
      rw [if_neg h, if_neg h]
      by_cases h : c = '+'
      · rw [if_pos h, if_pos h]
        cases repeatLast 1 none items <;> rfl
      rw [if_neg h, if_neg h]
      by_cases h : c = '\x7b'
      · rw [if_pos h, if_pos h]
        cases readBounds r.verbose rest with
        | none => rfl
        | some p =>
            obtain ⟨least, most, rest⟩ := p
            change _ = (repeatLast least most items).bind _
            dsimp only
            cases repeatLast least most items <;> rfl
      rw [if_neg h, if_neg h]
      by_cases h : c = '\\'
      · rw [if_pos h, if_pos h]
        cases readEscape r.verbose rest <;> rfl
      · rw [if_neg h, if_neg h]
        rfl

theorem within_afterClosing {α : Type} {next : List Char → Option (α × List Char)}
    (inside : ∀ rest, Within rest (next rest)) (cs : List Char) :
    Within cs (afterClosing next cs) := by
  cases cs with
  | nil => exact within_none []
  | cons c rest =>
      rw [afterClosing]
      split
      · exact (inside rest).cons c
      · exact within_none _

theorem agrees_afterClosing {α : Type} {f g : List Char → Option (α × List Char)}
    (inside : ∀ rest, Within rest (g rest)) (cs after : List Char)
    (next : ∀ rest, rest.length < cs.length →
      Agrees after rest (f rest) (g (rest ++ ')' :: after))) :
    Agrees after cs (afterClosing f cs) (afterClosing g (cs ++ ')' :: after)) := by
  cases cs with
  | nil => exact agrees_none (inside after)
  | cons c rest =>
      rw [List.cons_append, afterClosing, afterClosing]
      split
      · exact (next rest (Nat.lt_succ_self _)).cons c
      · exact agrees_none (within_none after)

theorem within_repeated {α : Type} (least : Nat) (most : Option Nat) (items : List Tree)
    {next : List Tree → Option (α × List Char)} (inside : ∀ items, Within cs (next items)) :
    Within cs ((repeatLast least most items).bind next) := by
  cases repeatLast least most items with
  | none => exact within_none cs
  | some items => exact inside items

theorem within_readGroup {fuel : Nat}
    (inside : ∀ r branches items cs, Within cs (readPart fuel r branches items cs))
    (r inner : Reading) (change : FlagChange) (branches items : List Tree) (cs : List Char) :
    Within cs (readGroup fuel r inner change branches items cs) :=
  (inside inner [] [] cs).bind fun _ rest => within_afterClosing (inside _ _ _) rest

theorem within_readOpened {fuel : Nat}
    (inside : ∀ r branches items cs, Within cs (readPart fuel r branches items cs))
    (r : Reading) (branches items : List Tree) (opening : Opening) (cs : List Char) :
    Within cs (readOpened fuel r branches items opening cs) := by
  cases opening with
  | flags change => exact inside _ _ _ cs
  | group change => exact within_readGroup inside r _ change branches items cs
  | named name =>
      rw [readOpened]
      split
      · exact within_none cs
      · exact within_readGroup inside r _ .none branches items cs

theorem within_readPart (fuel : Nat) (r : Reading) (branches items : List Tree)
    (cs : List Char) : Within cs (readPart fuel r branches items cs) := by
  induction fuel generalizing r branches items cs with
  | zero => exact within_none cs
  | succ fuel ih =>
      refine Within.mono ?_ (skip_suffix r.verbose cs)
      rw [readPart_succ]
      cases skip r.verbose cs with
      | nil => exact within_some _ (List.suffix_refl [])
      | cons c rest =>
          have repeated (least : Nat) (most : Option Nat) {ds : List Char} (end_of : ds <:+ rest) :
              Within rest ((repeatLast least most items).bind fun items =>
                readPart fuel r branches items ds) :=
            within_repeated least most items fun items => (ih r branches items ds).mono end_of
          dsimp only
          refine Within.ite (fun _ => ?_) fun _ => Within.cons ?_ c
          · exact within_some _ (List.suffix_refl _)
          refine Within.ite (fun _ => ?_) fun _ => ?_
          · exact ih _ _ _ rest
          refine Within.ite (fun _ => ?_) fun _ => ?_
          · exact (within_readOpening r.verbose rest).bind (within_readOpened ih r branches items)
          refine Within.ite (fun _ => ?_) fun _ => ?_
          · exact (within_readSet r.verbose rest).bind fun t rest => ih _ _ _ rest
          refine Within.ite (fun _ => ?_) fun _ => ?_
          · exact repeated _ _ (skipLazy_suffix rest)
          refine Within.ite (fun _ => ?_) fun _ => ?_
          · exact repeated _ _ (skipLazy_suffix rest)
          refine Within.ite (fun _ => ?_) fun _ => ?_
          · exact repeated _ _ (skipLazy_suffix rest)
          refine Within.ite (fun _ => ?_) fun _ => ?_
          · exact (within_readBounds r.verbose rest).bind fun bounds rest =>
              within_repeated _ _ items fun items => ih r branches items rest
          refine Within.ite (fun _ => ?_) fun _ => ?_
          · exact (within_readEscape r.verbose rest).bind fun atom rest => ih _ _ _ rest
          · exact ih _ _ _ rest

theorem readPart_nil {fuel : Nat} (some_fuel : 0 < fuel) (r : Reading)
    (branches items : List Tree) :
    readPart fuel r branches items [] = some ((finished branches items, r), []) := by
  obtain ⟨fuel, rfl⟩ := Nat.exists_eq_succ_of_ne_zero (Nat.ne_zero_of_lt some_fuel)
  rw [readPart_succ, skip_nil]

theorem readPart_skip (fuel : Nat) (r : Reading) (branches items : List Tree) (cs : List Char) :
    readPart fuel r branches items (skip r.verbose cs) = readPart fuel r branches items cs := by
  cases fuel with
  | zero => rfl
  | succ fuel => rw [readPart_succ, readPart_succ, skip_skip]

/-- Before an opening brace that nothing follows, a closing parenthesis does not make sense: it is
no count. -/
theorem within_readPart_brace (fuel : Nat) (r : Reading) (branches items : List Tree)
    {cs : List Char} (nothing : skip r.verbose cs = []) (after : List Char) :
    Within after (readPart fuel r branches items ('\x7b' :: cs ++ ')' :: after)) := by
  cases fuel with
  | zero => exact within_none after
  | succ fuel =>
      have bounds := (agrees_readBounds r.verbose cs after).within (readBounds_eq_none nothing)
      rw [List.cons_append, readPart_succ, skip_brace]
      dsimp only
      iterate 7 rw [if_neg (by decide)]
      rw [if_pos rfl]
      exact bounds.bind fun bounds rest =>
        within_repeated _ _ items fun items => within_readPart fuel r branches items rest

section Readers

variable {n m : Nat} {branches items : List Tree}

/-- Where choices before a closing parenthesis are read as at the end of the text, so are groups. -/
theorem agrees_readGroup (r inner : Reading) (change : FlagChange)
    (next : ∀ r branches items ds, ds.length ≤ cs.length →
      Agrees after ds (readPart n r branches items ds)
        (readPart m r branches items (ds ++ ')' :: after))) :
    Agrees after cs (readGroup n r inner change branches items cs)
      (readGroup m r inner change branches items (cs ++ ')' :: after)) := by
  refine (next inner [] [] cs (Nat.le_refl _)).bind
    (fun p rest => within_afterClosing (within_readPart m _ _ _) rest) (fun _ _ => rfl)
    fun p rest _ end_of => agrees_afterClosing (within_readPart m _ _ _) rest after
      fun ds shorter => next _ _ _ ds ?_
  have shorter_still := end_of.length_le
  omega

theorem agrees_readOpened (r : Reading) (opening : Opening)
    (next : ∀ r branches items ds, ds.length ≤ cs.length →
      Agrees after ds (readPart n r branches items ds)
        (readPart m r branches items (ds ++ ')' :: after))) :
    Agrees after cs (readOpened n r branches items opening cs)
      (readOpened m r branches items opening (cs ++ ')' :: after)) := by
  cases opening with
  | flags change => exact next _ _ _ cs (Nat.le_refl _)
  | group change => exact agrees_readGroup r _ change next
  | named name =>
      rw [readOpened, readOpened]
      split
      · exact agrees_none (within_none after)
      · exact agrees_readGroup r _ .none next

/-- A group that is open at the end of the text is malformed; flags for the rest of it are not. -/
theorem readOpened_nil (r : Reading) (opening : Opening) (some_fuel : 0 < n)
    (some_more : 0 < m) :
    readOpened n r branches items opening [] = readOpened m r branches items opening [] := by
  have group (inner : Reading) (change : FlagChange) :
      readGroup n r inner change branches items [] =
        readGroup m r inner change branches items [] := by
    rw [readGroup, readGroup, readPart_nil some_fuel, readPart_nil some_more]
    rfl
  cases opening with
  | flags change => rw [readOpened, readOpened, readPart_nil some_fuel, readPart_nil some_more]
  | group change => exact group _ change
  | named name => rw [readOpened, readOpened, group]

end Readers

theorem agrees_readPart {n m : Nat} (r : Reading) (branches items : List Tree)
    {cs after : List Char} (enough : cs.length < n) (more : cs.length + 1 + after.length < m) :
    Agrees after cs (readPart n r branches items cs)
      (readPart m r branches items (cs ++ ')' :: after)) := by
  induction n generalizing m r branches items cs with
  | zero => exact absurd enough (Nat.not_lt_zero _)
  | succ n ih =>
      obtain ⟨m, rfl⟩ := Nat.exists_eq_succ_of_ne_zero (Nat.ne_zero_of_lt more)
      -- Past what is skipped both texts begin with the same character, which decides what is read,
      -- unless nothing is left of the shorter one.
      rw [← readPart_skip, ← readPart_skip (m + 1)]
      refine Agrees.skip r.verbose (within_readPart (m + 1) r branches items) ?_
        fun rest end_of skipped => ?_
      · rw [readPart_nil (Nat.succ_pos n), readPart_nil (Nat.succ_pos m)]
      cases rest with
      | nil =>
          rw [readPart_nil (Nat.succ_pos n), List.nil_append, readPart_succ, skip_closing]
          exact agrees_some _ (List.suffix_refl [])
      | cons c rest =>
          have shorter : rest.length < cs.length := end_of.length_le
          have some_fuel : 0 < n := by omega
          have some_more : 0 < m := by omega
          have onward (r : Reading) (branches items : List Tree) (ds : List Char)
              (short : ds.length ≤ rest.length) :
              Agrees after ds (readPart n r branches items ds)
                (readPart m r branches items (ds ++ ')' :: after)) :=
            ih r branches items (by omega) (by omega)
          have still (r : Reading) (branches items : List Tree) :
              readPart n r branches items [] = readPart m r branches items [] := by
            rw [readPart_nil some_fuel, readPart_nil some_more]
          have repeated (least : Nat) (most : Option Nat) :
              Agrees after rest
                ((repeatLast least most items).bind fun items =>
                  readPart n r branches items (skipLazy rest))
                ((repeatLast least most items).bind fun items =>
                  readPart m r branches items (skipLazy (rest ++ ')' :: after))) := by
            have end_of := skipLazy_suffix rest
            rw [skipLazy_append]
            cases repeatLast least most items with
            | none => exact agrees_none (within_none after)
            | some items => exact (onward r branches items _ end_of.length_le).mono end_of
          rw [readPart_succ, readPart_succ, skip_append skipped, skipped]
          dsimp only [List.cons_append]
          refine Agrees.ite (fun _ => ?_) fun _ => Agrees.cons ?_ c
          · exact agrees_some _ (List.suffix_refl (c :: rest))
          refine Agrees.ite (fun _ => ?_) fun _ => ?_
          · exact onward _ _ _ rest (Nat.le_refl _)
          refine Agrees.ite (fun _ => ?_) fun _ => ?_
          · refine (agrees_readOpening r.verbose rest after).bind
              (within_readOpened (within_readPart m) r branches items)
              (fun opening _ => readOpened_nil r opening some_fuel some_more)
              fun opening ds _ end_of => ?_
            have short := end_of.length_le
            exact agrees_readOpened r opening fun r branches items es shorter =>
              onward r branches items es (by omega)
          refine Agrees.ite (fun _ => ?_) fun _ => ?_
          · exact (agrees_readSet r.verbose rest after).bind
              (fun t ds => within_readPart m _ _ _ ds) (fun t _ => still _ _ _)
              fun t ds _ end_of => onward _ _ _ ds end_of.length_le
          refine Agrees.ite (fun _ => ?_) fun _ => ?_
          · exact repeated 0 (some 1)
          refine Agrees.ite (fun _ => ?_) fun _ => ?_
          · exact repeated 0 none
          refine Agrees.ite (fun _ => ?_) fun _ => ?_
          · exact repeated 1 none
          refine Agrees.ite (fun _ => ?_) fun _ => ?_
          · refine (agrees_readBounds r.verbose rest after).bind
              (fun bounds ds => within_repeated _ _ items fun items =>
                within_readPart m r branches items ds)
              (fun bounds _ => ?_) fun bounds ds _ end_of => ?_
            · simp only [still]
            · dsimp only
              cases repeatLast bounds.1 bounds.2 items with
              | none => exact agrees_none (within_none after)
              | some items => exact onward r branches items ds end_of.length_le
          refine Agrees.ite (fun _ => ?_) fun _ => ?_
          · rcases agrees_readEscape r.verbose rest after with same | ⟨ds, -, nothing, hx, hy⟩
            · exact same.bind (fun atom ds => within_readPart m _ _ _ ds)
                (fun atom _ => still _ _ _) fun atom ds _ end_of =>
                  onward _ _ _ ds end_of.length_le
            · rw [hx, hy]
              exact agrees_none (within_readPart_brace m r branches _ nothing after)
          · exact onward _ _ _ rest (Nat.le_refl _)

/-! ### Fuel -/

/-- As many steps as there are characters are enough: more make no difference. -/
theorem readPart_fuel {n m : Nat} (r : Reading) (branches items : List Tree) {cs : List Char}
    (enough : cs.length < n) (also : cs.length < m) :
    readPart n r branches items cs = readPart m r branches items cs := by
  induction n generalizing m r branches items cs with
  | zero => exact absurd enough (Nat.not_lt_zero _)
  | succ n ih =>
      obtain ⟨m, rfl⟩ := Nat.exists_eq_succ_of_ne_zero (Nat.ne_zero_of_lt also)
      have end_of := skip_suffix r.verbose cs
      rw [readPart_succ, readPart_succ]
      cases left : skip r.verbose cs with
      | nil => rfl
      | cons c rest =>
          have shorter : rest.length < cs.length := by
            rw [left] at end_of
            exact end_of.length_le
          -- Whatever is read first leaves an end of the rest, for which the fuel is enough.
          have onward (r : Reading) (branches items : List Tree) {ds : List Char}
              (inside : ds <:+ rest) :
              readPart n r branches items ds = readPart m r branches items ds := by
            have short := inside.length_le
            exact ih r branches items (by omega) (by omega)
          have group (inner : Reading) (change : FlagChange) {ds : List Char}
              (inside : ds <:+ rest) :
              readGroup n r inner change branches items ds =
                readGroup m r inner change branches items ds := by
            rw [readGroup, readGroup, onward inner [] [] inside]
            refine Option.bind_congr fun p found => ?_
            have end_of := within_readPart m inner [] [] ds p.1 p.2 found
            cases closing : p.2 with
            | nil => rfl
            | cons c es =>
                rw [closing] at end_of
                rw [afterClosing, afterClosing, onward]
                exact ((List.suffix_cons c es).trans end_of).trans inside
          have repeated (least : Nat) (most : Option Nat) {ds : List Char} (inside : ds <:+ rest) :
              ((repeatLast least most items).bind fun items => readPart n r branches items ds) =
                (repeatLast least most items).bind fun items => readPart m r branches items ds :=
            Option.bind_congr fun items _ => onward r branches items inside
          have openings :
              ((readOpening r.verbose rest).bind fun p => readOpened n r branches items p.1 p.2) =
                (readOpening r.verbose rest).bind fun p =>
                  readOpened m r branches items p.1 p.2 := by
            refine Option.bind_congr fun p found => ?_
            have inside := within_readOpening r.verbose rest p.1 p.2 found
            cases p.1 with
            | flags change => exact onward _ _ _ inside
            | group change => exact group _ change inside
            | named name => rw [readOpened, readOpened, group _ .none inside]
          have sets : ((readSet r.verbose rest).bind fun p =>
                readPart n r branches (p.1 :: items) p.2) =
              (readSet r.verbose rest).bind fun p => readPart m r branches (p.1 :: items) p.2 :=
            Option.bind_congr fun p found =>
              onward _ _ _ (within_readSet r.verbose rest p.1 p.2 found)
          have bounds : (((readBounds r.verbose rest).map regroup).bind fun p =>
                (repeatLast p.1.1 p.1.2 items).bind fun items =>
                  readPart n r branches items p.2) =
              ((readBounds r.verbose rest).map regroup).bind fun p =>
                (repeatLast p.1.1 p.1.2 items).bind fun items =>
                  readPart m r branches items p.2 :=
            Option.bind_congr fun p found =>
              repeated _ _ (within_readBounds r.verbose rest p.1 p.2 found)
          have escapes : ((readEscape r.verbose rest).bind fun p =>
                readPart n r branches (p.1.tree :: items) p.2) =
              (readEscape r.verbose rest).bind fun p =>
                readPart m r branches (p.1.tree :: items) p.2 :=
            Option.bind_congr fun p found =>
              onward _ _ _ (within_readEscape r.verbose rest p.1 p.2 found)
          have whole := List.suffix_refl rest
          have lazy := skipLazy_suffix rest
          dsimp only
          rw [onward _ _ _ whole, onward _ _ _ whole, repeated _ _ lazy, repeated _ _ lazy,
            repeated _ _ lazy, openings, sets, bounds, escapes]

/-! ### One step of a choice -/

/-- What one step adds to the branches and to the items of the last branch. -/
inductive Extends (branches items : List Tree) : List Tree → List Tree → Prop where
  /-- An item comes to the last branch. -/
  | item (t : Tree) : Extends branches items branches (t :: items)
  /-- The last branch ends. -/
  | branch : Extends branches items (Tree.ofSequence items.reverse :: branches) []
  /-- The last item is repeated. -/
  | repeated {least : Nat} {most : Option Nat} {again : List Tree} :
    repeatLast least most items = some again → Extends branches items branches again

/-- A choice ends with the text or before a closing parenthesis, or it goes on after one step. -/
theorem readPart_step {fuel : Nat} {r : Reading} {branches items : List Tree}
    {cs rest : List Char} {p : Tree × Reading}
    (found : readPart (fuel + 1) r branches items cs = some (p, rest)) :
    (p = (finished branches items, r) ∧ (rest = [] ∨ ∃ ds, rest = ')' :: ds)) ∨
      ∃ next more others ds, Extends branches items more others ∧
        readPart fuel next more others ds = some (p, rest) := by
  have repeated {least : Nat} {most : Option Nat} {ds : List Char}
      (found : ((repeatLast least most items).bind fun items =>
        readPart fuel r branches items ds) = some (p, rest)) :
      ∃ next more others ds, Extends branches items more others ∧
        readPart fuel next more others ds = some (p, rest) := by
    obtain ⟨again, last, found⟩ := Option.bind_eq_some_iff.mp found
    exact ⟨r, branches, again, ds, .repeated last, found⟩
  have group {inner : Reading} {change : FlagChange} {ds : List Char}
      (found : readGroup fuel r inner change branches items ds = some (p, rest)) :
      ∃ next more others ds, Extends branches items more others ∧
        readPart fuel next more others ds = some (p, rest) := by
    obtain ⟨⟨q, es⟩, -, found⟩ := Option.bind_eq_some_iff.mp found
    cases es with
    | nil => cases found
    | cons c es =>
        rw [afterClosing] at found
        split at found
        · exact ⟨_, _, _, es, .item _, found⟩
        · cases found
  rw [readPart_succ] at found
  cases left : skip r.verbose cs with
  | nil =>
      rw [left] at found
      cases found
      exact Or.inl ⟨rfl, Or.inl rfl⟩
  | cons c ds =>
      rw [left] at found
      dsimp only at found
      split at found
      next closing =>
        cases found
        exact Or.inl ⟨rfl, Or.inr ⟨ds, closing ▸ rfl⟩⟩
      refine Or.inr ?_
      split at found
      · exact ⟨_, _, _, ds, .branch, found⟩
      split at found
      · obtain ⟨⟨opening, es⟩, -, found⟩ := Option.bind_eq_some_iff.mp found
        cases opening with
        | flags change => exact ⟨_, _, _, es, .item _, found⟩
        | group change => exact group found
        | named name =>
            rw [readOpened] at found
            split at found
            · cases found
            · exact group found
      split at found
      · obtain ⟨⟨t, es⟩, -, found⟩ := Option.bind_eq_some_iff.mp found
        exact ⟨_, _, _, es, .item t, found⟩
      split at found
      · exact repeated found
      split at found
      · exact repeated found
      split at found
      · exact repeated found
      split at found
      · obtain ⟨_, -, found⟩ := Option.bind_eq_some_iff.mp found
        exact repeated found
      split at found
      · obtain ⟨⟨atom, es⟩, -, found⟩ := Option.bind_eq_some_iff.mp found
        exact ⟨_, _, _, es, .item _, found⟩
      · exact ⟨_, _, _, ds, .item _, found⟩

/-- What a choice leaves is nothing, or it begins with a closing parenthesis. -/
theorem readPart_left {fuel : Nat} {r : Reading} {branches items : List Tree}
    {cs rest : List Char} {p : Tree × Reading}
    (found : readPart fuel r branches items cs = some (p, rest)) :
    rest = [] ∨ ∃ ds, rest = ')' :: ds := by
  induction fuel generalizing r branches items cs with
  | zero => cases found
  | succ fuel ih =>
      rcases readPart_step found with ⟨-, left⟩ | ⟨_, _, _, _, -, found⟩
      · exact left
      · exact ih found

/-! ### Depth -/

theorem Tree.depth_le_depths {t : Tree} {ts : List Tree} (member : t ∈ ts) :
    t.depth ≤ Tree.depths ts := by
  induction ts with
  | nil => cases member
  | cons s ts ih =>
      rw [Tree.depths]
      rcases List.mem_cons.mp member with rfl | member
      · exact Nat.le_max_left _ _
      · exact Nat.le_trans (ih member) (Nat.le_max_right _ _)

theorem Tree.depth_le_ofSequence {t : Tree} {ts : List Tree} (member : t ∈ ts) :
    t.depth ≤ (Tree.ofSequence ts).depth := by
  match ts with
  | [] => cases member
  | [s] => exact List.mem_singleton.mp member ▸ Nat.le_refl _
  | s :: u :: ts => exact Nat.le_succ_of_le (Tree.depth_le_depths member)

theorem Tree.depth_le_ofAlternation {t : Tree} {ts : List Tree} (member : t ∈ ts) :
    t.depth ≤ (Tree.ofAlternation ts).depth := by
  match ts with
  | [] => cases member
  | [s] => exact List.mem_singleton.mp member ▸ Nat.le_refl _
  | s :: u :: ts => exact Nat.le_succ_of_le (Tree.depth_le_depths member)

theorem repeatLast_eq_some {least : Nat} {most : Option Nat} {items again : List Tree}
    (last : repeatLast least most items = some again) :
    ∃ t ts, items = t :: ts ∧ again = .repetition least most t :: ts := by
  cases items with
  | nil => cases last
  | cons t ts =>
      refine ⟨t, ts, rfl, ?_⟩
      rw [repeatLast.eq_def] at last
      split at last
      case h_1 there => cases there
      case h_2 => cases last
      case h_3 => cases last
      case h_4 there =>
          cases there
          exact (Option.some.inj last).symm

/-- No branch and no item is nested more deeply than a tree. -/
def NoDeeper (branches items : List Tree) (t : Tree) : Prop :=
  (∀ s ∈ branches, s.depth ≤ t.depth) ∧ ∀ s ∈ items, s.depth ≤ t.depth

theorem noDeeper_finished (branches items : List Tree) :
    NoDeeper branches items (finished branches items) := by
  constructor
  · intro s member
    exact Tree.depth_le_ofAlternation
      (List.mem_reverse.mpr (List.mem_cons_of_mem _ member))
  · intro s member
    exact Nat.le_trans (Tree.depth_le_ofSequence (List.mem_reverse.mpr member))
      (Tree.depth_le_ofAlternation (List.mem_reverse.mpr List.mem_cons_self))

/-- Where what a step leads to is no deeper than a tree, what it comes from is not either. -/
theorem Extends.noDeeper {branches items more others : List Tree} {t : Tree}
    (step : Extends branches items more others) (bounded : NoDeeper more others t) :
    NoDeeper branches items t := by
  obtain ⟨branches_bounded, items_bounded⟩ := bounded
  cases step with
  | item u =>
      exact ⟨branches_bounded, fun s member => items_bounded s (List.mem_cons_of_mem u member)⟩
  | branch =>
      refine ⟨fun s member => branches_bounded s (List.mem_cons_of_mem _ member),
        fun s member => ?_⟩
      exact Nat.le_trans (Tree.depth_le_ofSequence (List.mem_reverse.mpr member))
        (branches_bounded _ List.mem_cons_self)
  | repeated last =>
      obtain ⟨u, us, rfl, rfl⟩ := repeatLast_eq_some last
      refine ⟨branches_bounded, fun s member => ?_⟩
      rcases List.mem_cons.mp member with rfl | member
      · exact Nat.le_of_succ_le (items_bounded _ List.mem_cons_self)
      · exact items_bounded s (List.mem_cons_of_mem _ member)

/-- No part of a choice is nested more deeply than the choice. -/
theorem readPart_noDeeper {fuel : Nat} {r : Reading} {branches items : List Tree}
    {cs rest : List Char} {p : Tree × Reading}
    (found : readPart fuel r branches items cs = some (p, rest)) :
    NoDeeper branches items p.1 := by
  induction fuel generalizing r branches items cs with
  | zero => cases found
  | succ fuel ih =>
      rcases readPart_step found with ⟨rfl, -⟩ | ⟨_, _, _, _, step, found⟩
      · exact noDeeper_finished branches items
      · exact step.noDeeper (ih found)

end ItemScoring.Pattern
