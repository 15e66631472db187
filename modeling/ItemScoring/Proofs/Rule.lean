import ItemScoring.Rule

/-!
# Induction over rules

Rules stand inside other rules in lists: in the branches of a condition and after them, and in a
fragment. A property that passes from these rules to the rule around them holds of every rule. The
places that rules take up add up over lists.
-/

set_option autoImplicit false

namespace ItemScoring

namespace Rule

/-- The lists of rules that stand directly inside a rule. -/
def bodies : Rule → List (List Rule)
  | condition first further otherwise =>
    first.rules :: (further.map Branch.rules ++ otherwise.toList)
  | fragment rules => [rules]
  | _ => []

/-- A property that passes from the rules inside a rule to the rule holds of every rule. -/
theorem induction {P : Rule → Prop}
    (rule : ∀ r : Rule, (∀ rules ∈ r.bodies, ∀ d ∈ rules, P d) → P r) (r : Rule) : P r := by
  refine Rule.rec (motive_1 := P) (motive_2 := fun b => ∀ d ∈ b.rules, P d)
    (motive_3 := fun bs => ∀ b ∈ bs, ∀ d ∈ b.rules, P d)
    (motive_4 := fun otherwise => ∀ rules ∈ otherwise, ∀ d ∈ rules, P d)
    (motive_5 := fun rules => ∀ d ∈ rules, P d) ?setOutcome ?lookupOutcome ?condition ?fragment
    ?exit ?branch ?noBranch ?branches ?nothing ?otherwise ?nil ?cons r
  case setOutcome => exact fun identifier e => rule _ fun _ h => nomatch h
  case lookupOutcome => exact fun identifier e => rule _ fun _ h => nomatch h
  case condition =>
    intro first further otherwise hfirst hfurther hotherwise
    refine rule _ fun rules h => ?_
    simp only [bodies, List.mem_cons, List.mem_append, List.mem_map, Option.mem_toList] at h
    rcases h with rfl | ⟨b, hb, rfl⟩ | h
    · exact hfirst
    · exact hfurther b hb
    · exact hotherwise rules h
  case fragment =>
    intro rules ih
    refine rule _ fun inner h => ?_
    obtain rfl : inner = rules := List.mem_singleton.1 h
    exact ih
  case exit => exact rule _ fun _ h => nomatch h
  case branch => exact fun _ _ ih => ih
  case noBranch => exact fun _ h => nomatch h
  case branches => exact fun b rest hb hrest => List.forall_mem_cons.2 ⟨hb, hrest⟩
  case nothing => exact fun _ h => nomatch h
  case otherwise =>
    intro rules ih inner h
    obtain rfl : rules = inner := Option.some.inj h
    exact ih
  case nil => exact fun _ h => nomatch h
  case cons => exact fun r rest hr hrest => List.forall_mem_cons.2 ⟨hr, hrest⟩

variable {first : Branch} {further : List Branch} {otherwise : Option (List Rule)}

theorem mem_bodies_of_branch {b : Branch} (hb : b ∈ first :: further) :
    b.rules ∈ (condition first further otherwise).bodies :=
  List.mem_append_left otherwise.toList (List.mem_map_of_mem (f := Branch.rules) hb)

theorem mem_bodies_of_otherwise {rules : List Rule} (h : otherwise = some rules) :
    rules ∈ (condition first further otherwise).bodies :=
  List.mem_append_right (List.map Branch.rules (first :: further)) (by simp [h])

/-! ## Places -/

theorem placesOfAll_append (before after : List Rule) :
    placesOfAll (before ++ after) = placesOfAll before + placesOfAll after := by
  induction before with
  | nil => rw [List.nil_append, placesOfAll, Nat.zero_add]
  | cons r rest ih => rw [List.cons_append, placesOfAll, placesOfAll, ih, Nat.add_assoc]

theorem placesOfBranch_eq (b : Branch) :
    placesOfBranch b = b.condition.size + placesOfAll b.rules := by
  cases b
  rfl

end Rule

end ItemScoring
