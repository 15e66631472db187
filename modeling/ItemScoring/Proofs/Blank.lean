import Mathlib.Data.List.DropRight
import Mathlib.Data.List.Infix
import ItemScoring.Text.Blank

/-!
# Trimming texts and cutting them into words

What is left of a text after trimming, and every word of a text, is a contiguous part of it. A text
that neither begins nor ends with a blank is left as it is, and a text is put together from its
words again: a word in front of a blank is the first word of the text, and the others are those of
the rest.
-/

set_option autoImplicit false

namespace ItemScoring.Text

/-- What is left begins with something that is not dropped. -/
theorem eq_false_of_mem_head?_dropWhile {α : Type} (p : α → Bool) (as : List α) :
    ∀ a ∈ (as.dropWhile p).head?, p a = false := by
  intro a first
  have stops := List.head?_dropWhile_not p as
  rw [Option.mem_def.1 first] at stops
  exact stops

/-! ## Trimming -/

/-- No blank stands at either end. -/
structure Trimmed (cs : List Char) : Prop where
  first : ∀ c ∈ cs.head?, isBlank c = false
  last : ∀ c ∈ cs.getLast?, isBlank c = false

theorem trimChars_infix (cs : List Char) : trimChars cs <:+: cs :=
  (List.rdropWhile_prefix isBlank (cs.dropWhile isBlank)).isInfix.trans
    (List.dropWhile_suffix isBlank).isInfix

/-- Nothing is trimmed where no blank stands at an end. -/
theorem trimChars_of_trimmed {cs : List Char} (h : Trimmed cs) : trimChars cs = cs := by
  have front : cs.dropWhile isBlank = cs := by
    cases cs with
    | nil => rfl
    | cons c rest => exact List.dropWhile_cons_of_neg (by simp [h.first c rfl])
  have back : cs.rdropWhile isBlank = cs := by
    refine List.rdropWhile_eq_self_iff.2 fun there => ?_
    simp [h.last _ (List.getLast?_eq_getLast_of_ne_nil there)]
  unfold trimChars
  rw [front]
  exact back

theorem trim_of_trimmed {s : String} (h : Trimmed s.toList) : trim s = s := by
  rw [trim, trimChars_of_trimmed h, String.ofList_toList]

/-! ## Words -/

theorem wordsChars_cons_of_blank {c : Char} (blank : isBlank c = true) (cs : List Char) :
    wordsChars (c :: cs) = wordsChars cs := if_pos blank

/-- A character that is not blank begins a word, which goes on up to the next blank. -/
theorem wordsChars_cons {c : Char} (there : isBlank c = false) (cs : List Char) :
    wordsChars (c :: cs) =
      (c :: cs.takeWhile fun d => !isBlank d) :: wordsChars (cs.dropWhile fun d => !isBlank d) := by
  induction cs generalizing c with
  | nil => exact if_neg (by simp [there])
  | cons d rest ih =>
      rw [wordsChars.eq_def]
      cases blank : isBlank d with
      | true => simp [there, blank]
      | false => simp [there, blank, ih blank]

/-- Every word of a text is a contiguous part of the text. -/
theorem infix_of_mem_wordsChars {w cs : List Char} (h : w ∈ wordsChars cs) : w <:+: cs := by
  induction n : cs.length using Nat.strongRecOn generalizing cs with
  | ind n ih =>
      cases cs with
      | nil => cases h
      | cons c rest =>
          subst n
          cases blank : isBlank c with
          | true =>
              rw [wordsChars_cons_of_blank blank] at h
              have inner := ih rest.length (Nat.lt_succ_self _) h rfl
              exact inner.trans (List.suffix_cons c rest).isInfix
          | false =>
              rw [wordsChars_cons blank] at h
              rcases List.mem_cons.1 h with rfl | h
              · exact ((List.prefix_cons_inj c).2 (List.takeWhile_prefix _)).isInfix
              · have suffix := List.dropWhile_suffix (fun d => !isBlank d) (l := rest)
                have shorter := Nat.lt_succ_of_le suffix.length_le
                exact (ih _ shorter h rfl).trans (suffix.trans (List.suffix_cons c rest)).isInfix

/-- There is something, and no blank in it. -/
structure IsWord (cs : List Char) : Prop where
  nonempty : cs ≠ []
  unbroken : ∀ c ∈ cs, isBlank c = false

/-- No blank stands at an end of a word. -/
theorem IsWord.trimmed {cs : List Char} (h : IsWord cs) : Trimmed cs where
  first c hc := h.unbroken c (List.mem_of_head? hc)
  last c hc := h.unbroken c (List.mem_of_getLast? hc)

/-- A word up to a blank or the end is the first word of a text. -/
theorem wordsChars_append {w rest : List Char} (word : IsWord w)
    (ends : ∀ c ∈ rest.head?, isBlank c = true) :
    wordsChars (w ++ rest) = w :: wordsChars rest := by
  obtain ⟨c, cs, rfl⟩ := List.exists_cons_of_ne_nil word.nonempty
  have unbroken : ∀ d ∈ cs, (!isBlank d) = true := by
    intro d hd
    simp [word.unbroken d (List.mem_cons_of_mem c hd)]
  have stops : rest.takeWhile (fun d => !isBlank d) = [] ∧
      rest.dropWhile (fun d => !isBlank d) = rest := by
    cases rest with
    | nil => exact ⟨rfl, rfl⟩
    | cons d _ => simp [ends d rfl]
  rw [List.cons_append, wordsChars_cons (word.unbroken c List.mem_cons_self),
    List.takeWhile_append_of_pos unbroken, List.dropWhile_append_of_pos unbroken, stops.1, stops.2,
    List.append_nil]

/-- A word is the only word of a text. -/
theorem wordsChars_of_isWord {w : List Char} (word : IsWord w) : wordsChars w = [w] := by
  have := wordsChars_append word (fun c (hc : c ∈ [].head?) => nomatch hc)
  rwa [List.append_nil] at this

/-- Two words with a blank between them are the words of a text. -/
theorem words_of_two {a b : String} (ha : IsWord a.toList) (hb : IsWord b.toList) :
    words (a ++ " " ++ b) = [a, b] := by
  have both : wordsChars (a.toList ++ ' ' :: b.toList) = [a.toList, b.toList] := by
    have ends : ∀ c ∈ (' ' :: b.toList).head?, isBlank c = true := by
      intro c hc
      obtain rfl : ' ' = c := Option.some.inj hc
      rfl
    rw [wordsChars_append ha ends, wordsChars_cons_of_blank rfl, wordsChars_of_isWord hb]
  have text : (a ++ " " ++ b).toList = a.toList ++ ' ' :: b.toList := by
    rw [String.toList_append, String.toList_append, List.append_assoc]
    rfl
  rw [words, text, both, List.map_cons, List.map_cons, List.map_nil, String.ofList_toList,
    String.ofList_toList]

/-! ## Words of trimmed texts -/

/-- What is left of a text stands between blanks. -/
theorem exists_eq_append_trimChars (cs : List Char) :
    ∃ before after, cs = before ++ (trimChars cs ++ after) ∧
      (∀ c ∈ before, isBlank c = true) ∧ ∀ c ∈ after, isBlank c = true := by
  refine ⟨cs.takeWhile isBlank, ((cs.dropWhile isBlank).reverse.takeWhile isBlank).reverse,
    ?_, fun c mem => ?_, fun c mem => ?_⟩
  · rw [trimChars, ← List.reverse_append, List.takeWhile_append_dropWhile, List.reverse_reverse,
      List.takeWhile_append_dropWhile]
  · exact List.all_eq_true.1 List.all_takeWhile c mem
  · exact List.all_eq_true.1 List.all_takeWhile c (List.mem_reverse.1 mem)

theorem trimmed_trimChars (cs : List Char) : Trimmed (trimChars cs) := by
  have front := eq_false_of_mem_head?_dropWhile isBlank
  refine ⟨fun c hc => ?_, fun c hc => ?_⟩
  · obtain ⟨rest, same⟩ := List.rdropWhile_prefix isBlank (cs.dropWhile isBlank)
    refine front cs c ?_
    rw [← same, List.head?_append]
    exact Option.or_eq_some_iff.2 (.inl hc)
  · rw [trimChars, List.getLast?_reverse] at hc
    exact front _ c hc

/-- Blanks in front belong to no word. -/
theorem wordsChars_blank_append {before : List Char} (blank : ∀ c ∈ before, isBlank c = true)
    (cs : List Char) : wordsChars (before ++ cs) = wordsChars cs := by
  induction before with
  | nil => rfl
  | cons c rest ih =>
      rw [List.cons_append, wordsChars_cons_of_blank (blank c List.mem_cons_self)]
      exact ih fun d mem => blank d (List.mem_cons_of_mem c mem)

theorem wordsChars_of_blank {cs : List Char} (blank : ∀ c ∈ cs, isBlank c = true) :
    wordsChars cs = [] := by
  have all := wordsChars_blank_append blank []
  rwa [List.append_nil] at all

/-- A character that is not blank belongs to a word. -/
theorem wordsChars_ne_nil {cs : List Char} {c : Char} (mem : c ∈ cs) (there : isBlank c = false) :
    wordsChars cs ≠ [] := by
  induction cs with
  | nil => cases mem
  | cons d rest ih =>
      cases blank : isBlank d with
      | false => simp [wordsChars_cons blank]
      | true =>
          rw [wordsChars_cons_of_blank blank]
          rcases List.mem_cons.1 mem with rfl | mem
          · rw [blank] at there
            cases there
          · exact ih mem

/-- What is left of a text is its only word, if no blank is left. -/
theorem wordsChars_of_isWord_trimChars {cs : List Char} (word : IsWord (trimChars cs)) :
    wordsChars cs = [trimChars cs] := by
  obtain ⟨before, after, same, front, back⟩ := exists_eq_append_trimChars cs
  have ends : ∀ c ∈ after.head?, isBlank c = true := fun c hc => back c (List.mem_of_head? hc)
  conv_lhs => rw [same]
  rw [wordsChars_blank_append front, wordsChars_append word ends, wordsChars_of_blank back]

/-- A blank that is left divides a word from another one. -/
theorem two_le_length_wordsChars {cs : List Char} {c : Char} (mem : c ∈ trimChars cs)
    (blank : isBlank c = true) : 2 ≤ (wordsChars cs).length := by
  obtain ⟨before, after, same, front, -⟩ := exists_eq_append_trimChars cs
  have trimmed := trimmed_trimChars cs
  rw [same, wordsChars_blank_append front]
  generalize trimChars cs = left at mem trimmed
  cases left with
  | nil => cases mem
  | cons d rest =>
      have first := trimmed.first d rfl
      rcases List.mem_cons.1 mem with rfl | mem
      · rw [blank] at first
        cases first
      · -- The first word ends at a blank, and behind it stands the last character, which is none.
        obtain ⟨e, behind, stops⟩ : ∃ e behind, rest.dropWhile (fun d => !isBlank d) =
            e :: behind := by
          refine List.exists_cons_of_ne_nil fun none => ?_
          have unbroken := List.dropWhile_eq_nil_iff.1 none c mem
          simp [blank] at unbroken
        obtain ⟨word, whole⟩ : e :: behind <:+ d :: rest :=
          stops ▸ (List.dropWhile_suffix _).trans (List.suffix_cons d rest)
        obtain ⟨last, final⟩ : ∃ last, (e :: behind).getLast? = some last :=
          ⟨_, List.getLast?_eq_some_getLast (List.cons_ne_nil e behind)⟩
        have there : isBlank last = false := by
          refine trimmed.last last ?_
          rw [← whole, List.getLast?_append, final]
          rfl
        have others : wordsChars (e :: behind ++ after) ≠ [] :=
          wordsChars_ne_nil (List.mem_append_left after (List.mem_of_getLast? final)) there
        rw [List.cons_append, wordsChars_cons first, List.dropWhile_append, stops]
        exact Nat.succ_le_succ (List.length_pos_iff.2 others)

end ItemScoring.Text
