import ItemScoring.Operator.Container
import ItemScoring.Proofs.Typing.Value
import ItemScoring.Proofs.Views

/-!
# Building collections and sequences

A collection or a sequence takes the scalars of its operands in order and leaves NULL out. The
operands have to share a base type, and looking for it goes from left to right. Operands that are
put together first stand for themselves afterwards: how operands are grouped changes neither what is
built nor whether it can be built. A repetition is the sequence of the operands written several
times, up to a greatest length.
-/

set_option autoImplicit false

namespace ItemScoring

/-! ## The base type that operands share -/

/-- The base type of an operand that is not NULL. -/
def Operand.type? (o : Operand) : Option BaseType := o.shape?.bind fun shape => shape.2

namespace Invocation

/-- The base type that is shared when one has been found before, and another one, if any, comes
next. -/
def joinBaseTypes (i : Invocation) : Option BaseType → Option BaseType → Result (Option BaseType)
  | found, none => .ok found
  | none, some b => .ok (some b)
  | some a, some b => if a = b then .ok (some a) else i.refuse (.mixedBaseTypes a b)

variable {i : Invocation}

/-- The search joins the base type of one operand after the other. -/
theorem sharedBaseType_cons_join (found : Option BaseType) (o : Operand) (rest : List Operand) :
    i.sharedBaseType found (o :: rest) =
      i.joinBaseTypes found o.type? >>= fun shared => i.sharedBaseType shared rest := by
  rw [sharedBaseType_cons, Operand.type?]
  cases o.shape? with
  | none => cases found <;> rfl
  | some shape =>
      obtain ⟨c, b⟩ := shape
      cases found with
      | none => cases b <;> rfl
      | some a =>
          cases b with
          | none => rfl
          | some b =>
              by_cases same : a = b
              · simp only [Option.bind_some, joinBaseTypes, if_pos same]
                rfl
              · simp only [Option.bind_some, joinBaseTypes, if_neg same]
                rfl

/-- The search goes on in later operands with what it has found in earlier ones. -/
theorem sharedBaseType_append (found : Option BaseType) (os ps : List Operand) :
    i.sharedBaseType found (os ++ ps) =
      i.sharedBaseType found os >>= fun shared => i.sharedBaseType shared ps := by
  induction os generalizing found with
  | nil => rfl
  | cons o rest ih =>
      rw [List.cons_append, sharedBaseType_cons_join, sharedBaseType_cons_join]
      cases i.joinBaseTypes found o.type? with
      | ok shared => exact ih shared
      | error e => rfl

/-- Base types can be joined for one invocation when they can for another. Where they cannot, the
report names the operator and is otherwise the same. -/
theorem joinBaseTypes_retag (j : Invocation) (found next : Option BaseType) :
    (∃ shared, i.joinBaseTypes found next = .ok shared ∧ j.joinBaseTypes found next = .ok shared) ∨
      ∃ a b, i.joinBaseTypes found next = i.refuse (.mixedBaseTypes a b) ∧
        j.joinBaseTypes found next = j.refuse (.mixedBaseTypes a b) := by
  cases next with
  | none => cases found <;> exact .inl ⟨_, rfl, rfl⟩
  | some b =>
      cases found with
      | none => exact .inl ⟨_, rfl, rfl⟩
      | some a =>
          by_cases same : a = b
          · exact .inl ⟨some a, if_pos same, if_pos same⟩
          · exact .inr ⟨a, b, if_neg same, if_neg same⟩

theorem sharedBaseType_retag (j : Invocation) (found : Option BaseType) (os : List Operand) :
    (∃ shared, i.sharedBaseType found os = .ok shared ∧ j.sharedBaseType found os = .ok shared) ∨
      ∃ a b, i.sharedBaseType found os = i.refuse (.mixedBaseTypes a b) ∧
        j.sharedBaseType found os = j.refuse (.mixedBaseTypes a b) := by
  induction os generalizing found with
  | nil => exact .inl ⟨found, rfl, rfl⟩
  | cons o rest ih =>
      rw [sharedBaseType_cons_join, sharedBaseType_cons_join]
      rcases joinBaseTypes_retag (i := i) j found o.type? with
        ⟨shared, here, there⟩ | ⟨a, b, here, there⟩
      · rw [here, there]
        exact ih shared
      · rw [here, there]
        exact .inr ⟨a, b, rfl, rfl⟩

/-- What operands share by themselves is joined, as a whole, with what was found before them. -/
theorem sharedBaseType_of_ok {shared : Option BaseType} {os : List Operand}
    (alone : i.sharedBaseType none os = .ok shared) (found : Option BaseType) :
    i.sharedBaseType found os = i.joinBaseTypes found shared := by
  induction os with
  | nil =>
      cases alone
      cases found <;> rfl
  | cons o rest ih =>
      rw [sharedBaseType_cons_join] at alone ⊢
      cases type : o.type? with
      | none =>
          rw [type] at alone
          cases found <;> exact ih alone
      | some b =>
          rw [type] at alone
          have alone : i.sharedBaseType (some b) rest = .ok shared := alone
          obtain rfl : shared = some b := (sharedBaseType_eq_ok alone).1 b rfl
          cases found with
          | none => exact alone
          | some a =>
              by_cases same : a = b
              · subst same
                rw [joinBaseTypes, if_pos rfl]
                exact alone
              · rw [joinBaseTypes, if_neg same]
                rfl

/-- Operands that share a base type with what was found before them share one by themselves. -/
theorem exists_sharedBaseType_alone {found shared : Option BaseType} {os : List Operand}
    (h : i.sharedBaseType found os = .ok shared) :
    ∃ alone, i.sharedBaseType none os = .ok alone := by
  induction os generalizing found with
  | nil => exact ⟨none, rfl⟩
  | cons o rest ih =>
      rw [sharedBaseType_cons_join] at h ⊢
      obtain ⟨next, joined, others⟩ := Result.bind_eq_ok.1 h
      cases type : o.type? with
      | none => exact ih others
      | some b =>
          refine ⟨shared, ?_⟩
          suffices next = some b by
            subst this
            exact others
          rw [type] at joined
          cases found with
          | none =>
              cases joined
              rfl
          | some a =>
              rw [joinBaseTypes] at joined
              split at joined
              · next same =>
                  cases joined
                  rw [same]
              · cases joined

/-- Operands that share no base type by themselves are refused after any other ones, too. -/
theorem sharedBaseType_of_error {e : Error} {os : List Operand}
    (alone : i.sharedBaseType none os = .error e) (found : Option BaseType) :
    ∃ a b, i.sharedBaseType found os = i.refuse (.mixedBaseTypes a b) := by
  rcases sharedBaseType_retag (i := i) i found os with ⟨shared, works, -⟩ | ⟨a, b, refused, -⟩
  · obtain ⟨shared, works⟩ := exists_sharedBaseType_alone works
    rw [works] at alone
    cases alone
  · exact ⟨a, b, refused⟩

/-- A base type that operands share is that of one of them. -/
theorem exists_of_sharedBaseType {b : BaseType} {os : List Operand}
    (h : i.sharedBaseType none os = .ok (some b)) :
    ∃ v, some v ∈ os ∧ v.isNull = false ∧ v.baseType = some b := by
  induction os with
  | nil => cases h
  | cons o rest ih =>
      rw [sharedBaseType_cons_join] at h
      cases type : o.type? with
      | none =>
          rw [type] at h
          obtain ⟨v, mem, filled, declared⟩ := ih h
          exact ⟨v, List.mem_cons_of_mem _ mem, filled, declared⟩
      | some a =>
          rw [type] at h
          obtain rfl := Option.some.inj ((sharedBaseType_eq_ok h).1 a rfl)
          obtain ⟨shape, filled, declared⟩ := Option.bind_eq_some_iff.1 type
          cases null : o.isNull with
          | true =>
              rw [Operand.shape?_of_isNull null] at filled
              cases filled
          | false =>
              cases o with
              | none => cases null
              | some v =>
                  rw [Operand.shape?_of_not_isNull null] at filled
                  cases filled
                  exact ⟨v, List.mem_cons_self, null, declared⟩

end Invocation

/-! ## Scalars of operands -/

namespace Container

theorem repeatList_eq {α : Type} (times : Nat) (xs : List α) :
    repeatList times xs = (List.replicate times xs).flatten := by
  unfold repeatList
  cases xs with
  | nil => simp
  | cons x rest => rfl

/-- The scalars of operands, in order. -/
def scalarsOf (os : List Operand) : List Scalar := os.flatMap fun o => o.elim [] Value.scalars

theorem scalars_container (c : Cardinality) (b : BaseType) (ss : List Scalar) :
    (Value.container c b ss).scalars = ss := by
  cases ss <;> rfl

/-! ## Building -/

/-- What is built of scalars that share a base type, if there is any. -/
def built (c : Cardinality) (shared : Option BaseType) (ss : List Scalar) : Operand :=
  some (shared.elim (.null c none) fun b => .container c b ss)

/-- Building asks for the shared base type, and takes the scalars in order. -/
theorem build_eq_built (c : Cardinality) (times : Nat) (i : Invocation) :
    build c times i =
      (built c · (List.replicate times (scalarsOf i.operands)).flatten) <$> i.commonBaseType := by
  unfold build
  cases i.commonBaseType with
  | error e => rfl
  | ok shared =>
      cases shared with
      | none => rfl
      | some b =>
          rw [← repeatList_eq]
          rfl

/-- What a collection or a sequence of a cardinality is put together from: NULL, a well-formed
single value, or a well-formed value of that cardinality. Such a value has a base type unless it is
NULL. -/
def Joins (c : Cardinality) (o : Operand) : Prop :=
  ∀ v, o = some v → v.isNull = false →
    v.WellFormed ∧ (v.cardinality = .single ∨ v.cardinality = c)

/-- What is put together and is not NULL has a base type and a scalar. -/
theorem Joins.exists_scalar {c : Cardinality} (container : c.isContainer = true) {v : Value}
    (joins : Joins c (some v)) (filled : v.isNull = false) :
    ∃ b, v.baseType = some b ∧ ∃ s, s ∈ v.scalars := by
  obtain ⟨formed, shape⟩ := joins v rfl filled
  obtain ⟨d, b, p⟩ := v
  rw [Value.wellFormed_mk] at formed
  cases p with
  | null => cases filled
  | single s =>
      obtain ⟨-, t, type, -⟩ := formed
      exact ⟨t, type, s, List.mem_singleton_self s⟩
  | list ss =>
      obtain ⟨-, nonempty, fits⟩ := formed
      obtain ⟨s, mem⟩ := List.exists_mem_of_ne_nil ss nonempty
      obtain ⟨t, type, -⟩ := fits s mem
      exact ⟨t, type, s, mem⟩
  | record fields =>
      obtain rfl : d = .record := formed.1
      rcases shape with single | collection
      · cases single
      · obtain rfl : Cardinality.record = c := collection
        cases container

section Grouping

variable {c : Cardinality} (container : c.isContainer = true) {i : Invocation} {os : List Operand}
  (joins : ∀ o ∈ os, Joins c o) {shared : Option BaseType}
  (alone : i.sharedBaseType none os = .ok shared)
include container joins alone

/-- What operands are put together to has their scalars. -/
theorem scalarsOf_built : scalarsOf [built c shared (scalarsOf os)] = scalarsOf os := by
  cases shared with
  | some b =>
      have kept := scalars_container c b (scalarsOf os)
      simpa [scalarsOf, built] using kept
  | none =>
      -- Without a base type all operands are NULL.
      symm
      refine List.flatMap_eq_nil_iff.2 fun o mem => ?_
      cases o with
      | none => rfl
      | some v =>
          cases null : v.isNull with
          | true => exact Value.scalars_of_isNull null
          | false =>
              obtain ⟨b, declared, -⟩ := (joins _ mem).exists_scalar container null
              have found := (Invocation.sharedBaseType_eq_ok alone).2 v mem null b declared
              cases found

/-- What operands are put together to has the base type that they share. -/
theorem type?_built : Operand.type? (built c shared (scalarsOf os)) = shared := by
  cases shared with
  | none => rfl
  | some b =>
      obtain ⟨v, mem, filled, -⟩ := Invocation.exists_of_sharedBaseType alone
      obtain ⟨-, -, s, there⟩ := (joins _ mem).exists_scalar container filled
      have some : s ∈ scalarsOf os := List.mem_flatMap.2 ⟨_, mem, there⟩
      obtain ⟨first, rest, split⟩ := List.exists_cons_of_ne_nil (List.ne_nil_of_mem some)
      rw [split]
      rfl

end Grouping

/-- Putting operands together once asks for the base type that they share, and takes their scalars
in order. -/
theorem build_one (c : Cardinality) (i : Invocation) (os : List Operand) :
    build c 1 { i with operands := os } =
      (built c · (scalarsOf os)) <$> i.sharedBaseType none os := by
  have shared : Invocation.commonBaseType { i with operands := os } = i.sharedBaseType none os :=
    Invocation.sharedBaseType_congr (i := { i with operands := os }) (j := i) rfl none rfl
  rw [build_eq_built, shared, List.replicate_one, List.flatten_singleton]

theorem scalarsOf_append (os ps : List Operand) :
    scalarsOf (os ++ ps) = scalarsOf os ++ scalarsOf ps :=
  List.flatMap_append

/-- Operands that are put together first stand for themselves afterwards: either they are refused by
themselves, and then among others, too, or it makes no difference to put them together first. -/
theorem build_grouped {c : Cardinality} (container : c.isContainer = true) (i : Invocation)
    {ys : List Operand} (joins : ∀ o ∈ ys, Joins c o) (xs zs : List Operand) :
    (∃ w, build c 1 { i with operands := ys } = .ok w ∧
      build c 1 { i with operands := xs ++ [w] ++ zs } =
        build c 1 { i with operands := xs ++ ys ++ zs }) ∨
    (∃ fault, build c 1 { i with operands := ys } = .error (.validation i.tag fault)) ∧
      ∃ e, build c 1 { i with operands := xs ++ ys ++ zs } = .error e := by
  cases alone : i.sharedBaseType none ys with
  | ok shared =>
      refine .inl ⟨built c shared (scalarsOf ys), ?_, ?_⟩
      · rw [build_one, alone]
        rfl
      have stands (found : Option BaseType) :
          i.sharedBaseType found [built c shared (scalarsOf ys)] = i.sharedBaseType found ys := by
        rw [Invocation.sharedBaseType_of_ok alone, Invocation.sharedBaseType_cons_join,
          type?_built container joins alone]
        cases i.joinBaseTypes found shared <;> rfl
      have scalars : scalarsOf (xs ++ [built c shared (scalarsOf ys)] ++ zs) =
          scalarsOf (xs ++ ys ++ zs) := by
        simp only [scalarsOf_append, scalarsOf_built container joins alone]
      rw [build_one, build_one, scalars]
      simp only [Invocation.sharedBaseType_append, stands]
  | error e =>
      refine .inr ⟨?_, ?_⟩
      · obtain ⟨a, b, refused⟩ := Invocation.sharedBaseType_of_error alone none
        refine ⟨.mixedBaseTypes a b, ?_⟩
        rw [build_one, refused]
        rfl
      · rw [build_one, Invocation.sharedBaseType_append, Invocation.sharedBaseType_append]
        cases i.sharedBaseType none xs with
        | error first => exact ⟨first, rfl⟩
        | ok found =>
            obtain ⟨a, b, refused⟩ := Invocation.sharedBaseType_of_error alone found
            refine ⟨.validation i.tag (.mixedBaseTypes a b), ?_⟩
            simp only [bind, Except.bind, refused]
            rfl

/-- Whatever cannot be built is refused because two base types differ. -/
theorem build_eq_error {c : Cardinality} {times : Nat} {i : Invocation} {e : Error}
    (h : build c times i = .error e) : ∃ a b, e = .validation i.tag (.mixedBaseTypes a b) := by
  rw [build_eq_built] at h
  rcases Invocation.sharedBaseType_retag (i := i) i none i.operands with
    ⟨shared, works, -⟩ | ⟨a, b, refused, -⟩
  · have works : i.commonBaseType = .ok shared := works
    rw [works] at h
    cases h
  · have refused : i.commonBaseType = i.refuse (.mixedBaseTypes a b) := refused
    rw [refused] at h
    cases h
    exact ⟨a, b, rfl⟩

/-- Building collections and sequences is associative. Whatever is built of some operands at once is
built, too, when consecutive ones are put together first; what cannot be built at once is refused
then, too, either for the consecutive operands or for what is left. -/
theorem collect_grouped {c : Cardinality} {collect : Invocation → Result Operand}
    (kind : (c, collect) = (.multiple, multiple) ∨ (c, collect) = (.ordered, ordered))
    (i : Invocation) {xs ys zs : List Operand} (joins : ∀ o ∈ xs ++ ys ++ zs, Joins c o) :
    (∀ v, collect { i with operands := xs ++ ys ++ zs } = .ok v →
      ∃ w, collect { i with operands := ys } = .ok w ∧
        collect { i with operands := xs ++ [w] ++ zs } = .ok v) ∧
    ∀ e, collect { i with operands := xs ++ ys ++ zs } = .error e →
      ∃ fault, collect { i with operands := ys } = .error (.validation i.tag fault) ∨
        ∃ w, collect { i with operands := ys } = .ok w ∧
          collect { i with operands := xs ++ [w] ++ zs } = .error (.validation i.tag fault) := by
  obtain ⟨container, rfl⟩ : c.isContainer = true ∧ collect = build c 1 := by
    rcases kind with ⟨rfl, rfl⟩ | ⟨rfl, rfl⟩ <;> exact ⟨rfl, rfl⟩
  have inner : ∀ o ∈ ys, Joins c o := fun o mem => joins o (by simp [mem])
  rcases build_grouped container i inner xs zs with
    ⟨w, first, same⟩ | ⟨⟨fault, first⟩, whole, refused⟩
  · refine ⟨fun v h => ⟨w, first, same.trans h⟩, fun e h => ?_⟩
    obtain ⟨a, b, rfl⟩ := build_eq_error h
    exact ⟨_, .inr ⟨w, first, same.trans h⟩⟩
  · refine ⟨fun v h => ?_, fun e h => ⟨fault, .inl first⟩⟩
    rw [refused] at h
    cases h

/-- A sequence inside a sequence, beside NULLs of several forms. -/
theorem sequence_inside_sequence :
    let i : Invocation := ⟨⟨"ordered", [], [], none⟩, [], .empty⟩
    let xs : List Operand := [some (.integer 3), none]
    let ys : List Operand :=
      [some (.null .multiple none), some (.container .ordered .integer [.integer 1, .integer 2])]
    let zs : List Operand := [some (.nullOf .string), some (.integer 1)]
    let whole : Operand :=
      some (.container .ordered .integer [.integer 3, .integer 1, .integer 2, .integer 1])
    (∀ o ∈ xs ++ ys ++ zs, Joins .ordered o) ∧
      ∃ w, ordered { i with operands := ys } = .ok w ∧
        ordered { i with operands := xs ++ [w] ++ zs } = .ok whole := by
  intro i xs ys zs whole
  have null (c : Cardinality) (b : Option BaseType) : Joins .ordered (some (.null c b)) := by
    rintro v ⟨⟩ filled
    cases filled
  have absent : Joins .ordered none := by
    rintro v ⟨⟩
  have number (n : Int64) : Joins .ordered (some (.integer n)) := by
    rintro v ⟨⟩ -
    exact ⟨Value.wellFormed_integer n, .inl rfl⟩
  have sequence : Joins .ordered
      (some (.container .ordered .integer [.integer 1, .integer 2])) := by
    rintro v ⟨⟩ -
    exact ⟨(Value.wellFormed_container (by decide)).2 (.inr rfl), .inr rfl⟩
  have joins : ∀ o ∈ xs ++ ys ++ zs, Joins .ordered o := by
    simp only [xs, ys, zs, List.forall_mem_append, List.forall_mem_cons]
    exact ⟨⟨⟨number 3, absent, List.forall_mem_nil _⟩, null .multiple none, sequence,
      List.forall_mem_nil _⟩, null .single (some .string), number 1, List.forall_mem_nil _⟩
  exact ⟨joins, (collect_grouped (.inr rfl) i joins).1 whole rfl⟩

end Container

end ItemScoring
