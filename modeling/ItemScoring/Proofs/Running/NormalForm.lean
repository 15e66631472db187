import ItemScoring.Proofs.Running.Choice

/-!
# A normal form of rules

Groups and further branches are conveniences. The rules of a group can stand in its place, and a
condition with further branches is a condition that has, as its last rules, the condition made of
the further branches. What is left are assignments, ends of processing and conditions with one
branch. Every expression keeps its place, and they do what the rules did, whatever is chosen at
random.
-/

set_option autoImplicit false

namespace ItemScoring

namespace Rule

mutual

/-- What stands in the place of a rule: its rules for a group, a nest of conditions with one branch
for a condition, and for every other rule the rule. -/
def normalize : Rule → List Rule
  | .setOutcome identifier e => [.setOutcome identifier e]
  | .lookupOutcome identifier e => [.lookupOutcome identifier e]
  | .condition first further otherwise =>
    [.condition (normalizeBranch first) [] (nest further (normalizeOtherwise otherwise))]
  | .fragment rules => normalizeAll rules
  | .exit => [.exit]
termination_by structural r => r

/-- Every rule replaced by what stands in its place. -/
def normalizeAll : List Rule → List Rule
  | [] => []
  | r :: rest => normalize r ++ normalizeAll rest
termination_by structural rules => rules

/-- A branch with its rules replaced. -/
def normalizeBranch : Branch → Branch
  | .mk e rules => .mk e (normalizeAll rules)
termination_by structural b => b

/-- Branches as conditions, each of them the last rule of the one before. -/
def nest : List Branch → Option (List Rule) → Option (List Rule)
  | [], otherwise => otherwise
  | b :: rest, otherwise => some [.condition (normalizeBranch b) [] (nest rest otherwise)]
termination_by structural branches => branches

/-- The rules for the case that no condition holds, replaced. -/
def normalizeOtherwise : Option (List Rule) → Option (List Rule)
  | none => none
  | some rules => some (normalizeAll rules)
termination_by structural otherwise => otherwise

end

/-- A rule that is no group and has no further branches. -/
def isPlain : Rule → Bool
  | condition _ further _ => further.isEmpty
  | fragment _ => false
  | _ => true

/-- Rules are in normal form when they and all rules inside them are plain. -/
def Normal (rules : List Rule) : Prop := ∀ d ∈ nodesOfAll rules, d.isPlain = true

/-! ## The result is in normal form -/

theorem nodesOfAll_append (before after : List Rule) :
    nodesOfAll (before ++ after) = nodesOfAll before ++ nodesOfAll after := by
  induction before with
  | nil => rfl
  | cons r rest ih => rw [List.cons_append, nodesOfAll, nodesOfAll, ih, List.append_assoc]

theorem normal_append {before after : List Rule} :
    Normal (before ++ after) ↔ Normal before ∧ Normal after := by
  unfold Normal
  rw [nodesOfAll_append, List.forall_mem_append]

/-- A condition with one branch is in normal form when its rules are. -/
theorem normal_condition {b : Branch} {otherwise : Option (List Rule)} (first : Normal b.rules)
    (last : Normal (otherwise.getD [])) : Normal [.condition b [] otherwise] := by
  obtain ⟨e, rules⟩ := b
  intro d hd
  have parts : d = .condition (.mk e rules) [] otherwise ∨ d ∈ nodesOfAll rules ∨
      d ∈ nodesOfOtherwise otherwise := by
    simpa [nodesOfAll, nodes, nodesOfBranch, nodesOfBranches] using hd
  rcases parts with rfl | hd | hd
  · rfl
  · exact first d hd
  · cases otherwise with
    | none => cases hd
    | some rules => exact last d hd

theorem normalizeBranch_rules (b : Branch) : (normalizeBranch b).rules = normalizeAll b.rules := by
  cases b
  rfl

theorem normalizeBranch_condition (b : Branch) :
    (normalizeBranch b).condition = b.condition := by
  cases b
  rfl

theorem getD_normalizeOtherwise (otherwise : Option (List Rule)) :
    (normalizeOtherwise otherwise).getD [] = normalizeAll (otherwise.getD []) := by
  cases otherwise <;> rfl

theorem normal_nest {branches : List Branch} {otherwise : Option (List Rule)}
    (each : ∀ b ∈ branches, Normal (normalizeAll b.rules)) (last : Normal (otherwise.getD [])) :
    Normal ((nest branches otherwise).getD []) := by
  induction branches with
  | nil => exact last
  | cons b rest ih =>
      obtain ⟨first, others⟩ := List.forall_mem_cons.1 each
      refine normal_condition ?_ (ih others)
      rw [normalizeBranch_rules]
      exact first

theorem normal_normalizeAll_of_forall {rules : List Rule}
    (each : ∀ d ∈ rules, Normal d.normalize) : Normal (normalizeAll rules) := by
  induction rules with
  | nil => exact fun _ h => nomatch h
  | cons r rest ih =>
      obtain ⟨first, others⟩ := List.forall_mem_cons.1 each
      exact normal_append.2 ⟨first, ih others⟩

theorem normal_normalize (r : Rule) : Normal r.normalize := by
  induction r using Rule.induction with
  | rule r ih =>
      have bodies : ∀ rules ∈ r.bodies, Normal (normalizeAll rules) := fun rules hr =>
        normal_normalizeAll_of_forall (ih rules hr)
      cases r with
      | setOutcome identifier e =>
          intro d hd
          obtain rfl : d = .setOutcome identifier e := List.mem_singleton.1 hd
          rfl
      | lookupOutcome identifier e =>
          intro d hd
          obtain rfl : d = .lookupOutcome identifier e := List.mem_singleton.1 hd
          rfl
      | condition first further otherwise =>
          have branches : ∀ b ∈ first :: further, Normal (normalizeAll b.rules) := by
            intro b hb
            exact bodies b.rules (mem_bodies_of_branch hb)
          refine normal_nest branches ?_
          rw [getD_normalizeOtherwise]
          cases otherwise with
          | none => exact fun _ h => nomatch h
          | some rules => exact bodies rules (mem_bodies_of_otherwise rfl)
      | fragment rules => exact bodies rules List.mem_cons_self
      | exit =>
          intro d hd
          obtain rfl : d = .exit := List.mem_singleton.1 hd
          rfl

/-! ## The result takes up the same places -/

theorem placesOfAll_nest {branches : List Branch} (otherwise : Option (List Rule))
    (each : ∀ b ∈ branches, placesOfAll (normalizeAll b.rules) = placesOfAll b.rules) :
    placesOfOtherwise (nest branches otherwise) =
      placesOfBranches branches + placesOfOtherwise otherwise := by
  induction branches with
  | nil => exact (Nat.zero_add _).symm
  | cons b rest ih =>
      obtain ⟨first, others⟩ := List.forall_mem_cons.1 each
      rw [nest, placesOfOtherwise, placesOfAll, places, placesOfAll, ih others, placesOfBranches,
        placesOfBranches, placesOfBranch_eq, placesOfBranch_eq, normalizeBranch_condition,
        normalizeBranch_rules, first]
      omega

theorem placesOfAll_normalizeAll_of_forall {rules : List Rule}
    (each : ∀ d ∈ rules, placesOfAll d.normalize = d.places) :
    placesOfAll (normalizeAll rules) = placesOfAll rules := by
  induction rules with
  | nil => rfl
  | cons r rest ih =>
      obtain ⟨first, others⟩ := List.forall_mem_cons.1 each
      rw [normalizeAll, placesOfAll_append, first, ih others, placesOfAll]

theorem placesOfAll_normalize (r : Rule) : placesOfAll r.normalize = r.places := by
  induction r using Rule.induction with
  | rule r ih =>
      have bodies : ∀ rules ∈ r.bodies, placesOfAll (normalizeAll rules) = placesOfAll rules :=
        fun rules hr => placesOfAll_normalizeAll_of_forall (ih rules hr)
      cases r with
      | setOutcome identifier e => rfl
      | lookupOutcome identifier e => rfl
      | condition first further otherwise =>
          have branches : ∀ b ∈ first :: further,
              placesOfAll (normalizeAll b.rules) = placesOfAll b.rules :=
            fun b hb => bodies b.rules (mem_bodies_of_branch hb)
          have last : placesOfOtherwise (normalizeOtherwise otherwise) =
              placesOfOtherwise otherwise := by
            cases otherwise with
            | none => rfl
            | some rules => exact bodies rules (mem_bodies_of_otherwise rfl)
          have nested := placesOfAll_nest (normalizeOtherwise otherwise) branches
          rw [last, placesOfBranches] at nested
          exact nested
      | fragment rules => exact bodies rules List.mem_cons_self
      | exit => rfl

end Rule

/-! ## The result does the same -/

namespace Engine

open Processing Rule

variable (g : Engine)

/-- A nest of conditions does what the branches do that it was made of. -/
theorem executeAll_nest {branches : List Branch} {otherwise : Option (List Rule)}
    (each : ∀ b ∈ branches, ∀ place,
      g.executeAll place (normalizeAll b.rules) = g.executeAll place b.rules)
    (last : ∀ place, g.executeAll place (normalizeAll (otherwise.getD [])) =
      g.executeAll place (otherwise.getD [])) (place : Nat) :
    g.executeAll place ((nest branches (normalizeOtherwise otherwise)).getD []) =
      ofSession (g.chosen place branches otherwise) >>= g.executeChosen := by
  induction branches generalizing place with
  | nil =>
      rw [nest, getD_normalizeOtherwise, last, chosen_nil_bind]
  | cons b rest ih =>
      obtain ⟨first, others⟩ := List.forall_mem_cons.1 each
      -- Both sides decide this branch first, and agree by `inner` when it does not hold.
      have inner := ih others (place + placesOfBranch b)
      have same : placesOfBranch (normalizeBranch b) = placesOfBranch b := by
        rw [placesOfBranch_eq, placesOfBranch_eq, normalizeBranch_condition, normalizeBranch_rules,
          placesOfAll_normalizeAll_of_forall fun d _ => placesOfAll_normalize d]
      rw [nest, Option.getD_some, executeAll_singleton, execute_condition, chosen_cons_bind,
        chosen_cons_bind, chosen_nil_bind, same, inner, normalizeBranch_rules, first,
        normalizeBranch_condition]

theorem executeAll_normalizeAll_of_forall {rules : List Rule}
    (each : ∀ d ∈ rules, ∀ place, g.executeAll place d.normalize = g.execute place d)
    (place : Nat) : g.executeAll place (normalizeAll rules) = g.executeAll place rules := by
  induction rules generalizing place with
  | nil => rfl
  | cons r rest ih =>
      obtain ⟨first, others⟩ := List.forall_mem_cons.1 each
      rw [normalizeAll, executeAll_append, first, placesOfAll_normalize, ih others,
        executeAll_cons]

theorem executeAll_normalize (r : Rule) (place : Nat) :
    g.executeAll place r.normalize = g.execute place r := by
  induction r using Rule.induction generalizing place with
  | rule r ih =>
      have bodies : ∀ rules ∈ r.bodies, ∀ place,
          g.executeAll place (normalizeAll rules) = g.executeAll place rules :=
        fun rules hr => executeAll_normalizeAll_of_forall g (ih rules hr)
      cases r with
      | setOutcome identifier e => exact executeAll_singleton g place _
      | lookupOutcome identifier e => exact executeAll_singleton g place _
      | condition first further otherwise =>
          have branches : ∀ b ∈ first :: further, ∀ place,
              g.executeAll place (normalizeAll b.rules) = g.executeAll place b.rules := by
            intro b hb
            exact bodies b.rules (mem_bodies_of_branch hb)
          rw [execute_condition]
          refine executeAll_nest g branches ?_ place
          cases otherwise with
          | none => exact fun _ => rfl
          | some rules => exact bodies rules (mem_bodies_of_otherwise rfl)
      | fragment rules => exact bodies rules List.mem_cons_self place
      | exit => exact executeAll_singleton g place _

/-- The normal form of rules is in normal form, and from every place and session it ends in the same
way, with the same error if there is one, and leaves the same session. -/
theorem executeAll_normalizeAll (place : Nat) (rules : List Rule) :
    Normal (normalizeAll rules) ∧
      g.executeAll place (normalizeAll rules) = g.executeAll place rules :=
  ⟨normal_normalizeAll_of_forall fun d _ => normal_normalize d,
    executeAll_normalizeAll_of_forall g (fun d _ => executeAll_normalize g d) place⟩

end Engine

end ItemScoring
