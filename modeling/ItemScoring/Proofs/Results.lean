import ItemScoring.Error

/-!
# What a result guarantees

Work that an error can stop yields something or reports an error. `Result.Ensures` says that
whatever is yielded has a property, `Result.Related` that two results report one error or yield
related things, and `Result.EqUnless` that two results are equal unless the first is an error of its
own. All follow the steps of the work, so that a property of an operator is proved step by step
along its definition.
-/

set_option autoImplicit false

namespace ItemScoring.Result

variable {α β γ δ : Type}

/-! ## One result -/

/-- Whatever the work yields has the property; an error is allowed. -/
def Ensures (r : Result α) (P : α → Prop) : Prop := ∀ a, r = .ok a → P a

@[simp] theorem ensures_ok {P : α → Prop} {a : α} : Ensures (.ok a) P ↔ P a :=
  ⟨fun h => h a rfl, fun h _ eq => Except.ok.inj eq ▸ h⟩

@[simp] theorem ensures_pure {P : α → Prop} {a : α} : Ensures (pure a) P ↔ P a := ensures_ok

@[simp] theorem ensures_error {P : α → Prop} {e : Error} : Ensures (.error e) P :=
  fun _ eq => nomatch eq

/-- Work in two steps yields something when both steps do, whatever kind of error stops it. -/
theorem bind_eq_ok {ε : Type} {x : Except ε α} {f : α → Except ε β} {b : β} :
    x >>= f = .ok b ↔ ∃ a, x = .ok a ∧ f a = .ok b := by
  cases x with
  | ok a =>
      constructor
      · exact fun h => ⟨a, rfl, h⟩
      · rintro ⟨a', ha, hb⟩
        cases ha
        exact hb
  | error e =>
      constructor
      · intro h
        cases h
      · rintro ⟨a', ha, -⟩
        cases ha

theorem map_eq_ok {ε : Type} {x : Except ε α} {f : α → β} {b : β} :
    f <$> x = .ok b ↔ ∃ a, x = .ok a ∧ f a = b := by
  cases x with
  | ok a => simp [Functor.map, Except.map]
  | error e => simp [Functor.map, Except.map]

/-- Work in two steps comes out the same when the second step does for whatever the first yields. -/
theorem bind_congr_ok {ε : Type} {x : Except ε α} {f g : α → Except ε β}
    (h : ∀ a, x = .ok a → f a = g a) : x >>= f = x >>= g := by
  cases x with
  | ok a => exact h a rfl
  | error e => rfl

/-- Whatever a list of results yields is yielded for one of the things that the work was done for.
-/
theorem exists_mem_of_mapM {ε : Type} {f : α → Except ε β} {as : List α} {bs : List β}
    (h : as.mapM f = .ok bs) {b : β} (hb : b ∈ bs) : ∃ a ∈ as, f a = .ok b := by
  induction as generalizing bs with
  | nil =>
      rw [List.mapM_nil] at h
      cases h
      cases hb
  | cons a rest ih =>
      rw [List.mapM_cons] at h
      obtain ⟨first, ha, h⟩ := bind_eq_ok.1 h
      obtain ⟨others, hothers, h⟩ := bind_eq_ok.1 h
      cases h
      rcases List.mem_cons.1 hb with rfl | hb
      · exact ⟨a, List.mem_cons_self, ha⟩
      · obtain ⟨a', mem, ha'⟩ := ih hothers hb
        exact ⟨a', List.mem_cons_of_mem _ mem, ha'⟩

/-- What the second step ensures for everything that the first may yield, both steps ensure. -/
theorem Ensures.bind {P : β → Prop} {x : Result α} {f : α → Result β}
    (h : ∀ a, x = .ok a → Ensures (f a) P) : Ensures (x >>= f) P := by
  intro b hb
  obtain ⟨a, ha, hfa⟩ := bind_eq_ok.1 hb
  exact h a ha b hfa

/-! ## Two results -/

/-- Both report the same error, or both yield something and the two are related. -/
def Related (R : α → β → Prop) : Result α → Result β → Prop
  | .ok a, .ok b => R a b
  | .error e, .error f => e = f
  | _, _ => False

@[simp] theorem related_ok {R : α → β → Prop} {a : α} {b : β} :
    Related R (.ok a) (.ok b) ↔ R a b := Iff.rfl

@[simp] theorem related_pure {R : α → β → Prop} {a : α} {b : β} :
    Related R (pure a) (pure b) ↔ R a b := Iff.rfl

@[simp] theorem related_error {R : α → β → Prop} {e f : Error} :
    Related R (.error e) (.error f) ↔ e = f := Iff.rfl

/-- A result is related to itself when whatever it yields is. -/
theorem Related.of_eq {R : α → α → Prop} (refl : ∀ a, R a a) {r t : Result α} (h : r = t) :
    Related R r t := by
  subst h
  cases r with
  | ok a => exact refl a
  | error e => exact rfl

/-- Results that yield the same are the same. -/
theorem Related.eq {r t : Result α} (h : Related Eq r t) : r = t := by
  cases r with
  | ok a =>
      cases t with
      | ok b => exact congrArg Except.ok h
      | error e => exact h.elim
  | error e =>
      cases t with
      | ok b => exact h.elim
      | error f => exact congrArg Except.error h

/-- Work in two steps is related when the first steps are, and the second ones for related
things. -/
theorem Related.bind {R : α → β → Prop} {S : γ → δ → Prop} {x : Result α} {y : Result β}
    {f : α → Result γ} {g : β → Result δ} (first : Related R x y)
    (second : ∀ a b, R a b → Related S (f a) (g b)) : Related S (x >>= f) (y >>= g) := by
  cases x with
  | ok a =>
      cases y with
      | ok b => exact second a b first
      | error e => exact first.elim
  | error e =>
      cases y with
      | ok b => exact first.elim
      | error f => exact first

/-- Work whose first steps are equal is related when the second steps are, on what is yielded. -/
theorem Related.bind_eq {S : γ → δ → Prop} {x y : Result α} {f : α → Result γ}
    {g : α → Result δ} (first : x = y) (second : ∀ a, x = .ok a → Related S (f a) (g a)) :
    Related S (x >>= f) (y >>= g) := by
  subst first
  cases x with
  | ok a => exact second a rfl
  | error e => rfl

/-! ## A result that may be an error of its own -/

/-- The first result is the second, unless it is an error of the given kind. -/
def EqUnless (F : Error → Prop) (r t : Result α) : Prop :=
  r = t ∨ ∃ fault, F fault ∧ r = .error fault

variable {F : Error → Prop}

theorem EqUnless.refl (r : Result α) : EqUnless F r r := .inl rfl

/-- When no error is of the kind, the results are equal. -/
theorem EqUnless.eq {r t : Result α} (h : EqUnless F r t) (never : ∀ fault, ¬ F fault) : r = t := by
  rcases h with same | ⟨fault, own, -⟩
  · exact same
  · exact absurd own (never fault)

/-- Work in two steps comes out the same when both steps do; an error of the first work's own ends
it in either step. -/
theorem EqUnless.bind {x y : Result α} {f g : α → Result β} (first : EqUnless F x y)
    (second : ∀ a, EqUnless F (f a) (g a)) : EqUnless F (x >>= f) (y >>= g) := by
  rcases first with rfl | ⟨fault, own, rfl⟩
  · cases x with
    | ok a => exact second a
    | error e => exact .refl _
  · exact .inr ⟨fault, own, rfl⟩

end ItemScoring.Result
