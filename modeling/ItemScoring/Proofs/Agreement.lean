import ItemScoring.Proofs.Order.Value
import ItemScoring.Proofs.Pairing
import ItemScoring.Proofs.Registry
import ItemScoring.Proofs.Typing.Value

/-!
# When values are equal

Collections are compared by sorting both and looking at them place by place. The order by which they
are sorted tells more scalars apart than agreement does: the two zeros agree, but one comes before
the other, and what is no number has a place in the order and agrees with nothing. No scalar comes
between the two zeros, though, so scalars that agree stand in the same places, and collections are
equal exactly when their scalars can be paired. Records are equal when they have the same names and
equal fields.
-/

set_option autoImplicit false

namespace ItemScoring

/-! ## Scalars that agree -/

/-- A pattern, with that of plain zero in place of both zeros. -/
def Binary64.unsignedZero (b : Binary64) : Binary64 :=
  if b.toFloat == 0 then ofFloat 0 else b

namespace Scalar

variable {s t : Scalar}

/-- What stands for all scalars that agree with a scalar: the names of a pair are in order, and zero
has no sign. -/
def representative : Scalar → Scalar
  | .float x => .float x.unsignedZero
  | s => s.canonical

theorem representative_eq_canonical (notFloat : s.rank ≠ 3) : s.representative = s.canonical := by
  cases s with
  | float x => exact absurd rfl notFloat
  | _ => rfl

theorem exists_float_of_rank (h : s.rank = 3) : ∃ x, s = .float x := by
  cases s with
  | float x => exact ⟨x, rfl⟩
  | _ => cases h

theorem rank_representative (s : Scalar) : s.representative.rank = s.rank := by
  by_cases float : s.rank = 3
  · obtain ⟨x, rfl⟩ := exists_float_of_rank float
    rfl
  · rw [representative_eq_canonical float, rank_canonical]

theorem canonical_representative (s : Scalar) : s.representative.canonical = s.representative := by
  by_cases float : s.rank = 3
  · obtain ⟨x, rfl⟩ := exists_float_of_rank float
    rfl
  · rw [representative_eq_canonical float, canonical_canonical]

/-- A scalar and its representative agree with the same scalars. -/
theorem representative_agrees (s t : Scalar) : s.representative.agrees t = s.agrees t := by
  by_cases float : s.rank = 3
  · obtain ⟨x, rfl⟩ := exists_float_of_rank float
    by_cases zero : (x.toFloat == 0) = true
    · have agree : (Scalar.float x).agrees (.float (.ofFloat 0)) = true := by
        simpa only [agrees, Binary64.toFloat_ofFloat] using zero
      simp only [representative, Binary64.unsignedZero, zero, if_true]
      exact (agrees_congr_left agree).symm
    · simp only [representative, Binary64.unsignedZero, zero, Bool.false_eq_true, if_false]
  · rw [representative_eq_canonical float, canonical_agrees]

/-- A scalar that agrees with itself agrees with every scalar of its representative. -/
theorem agrees_of_representative_eq (itself : t.agrees t = true)
    (h : s.representative = t.representative) : s.agrees t = true := by
  rw [← representative_agrees, h, representative_agrees]
  exact itself

theorem representative_eq_of_agrees (h : s.agrees t = true) :
    s.representative = t.representative := by
  obtain ⟨rank, texts, marks, hs, ht⟩ := agrees_iff.1 h
  by_cases float : s.rank = 3
  · obtain ⟨x, rfl⟩ := exists_float_of_rank float
    obtain ⟨y, rfl⟩ := exists_float_of_rank (rank.symm.trans float)
    rcases Binary64.eq_or_zero_of_toFloat_beq h with rfl | ⟨first, second⟩
    · rfl
    · simp only [representative, Binary64.unsignedZero, first, second, if_true]
  · have numbers : ∀ {r : Scalar}, r.rank ≠ 3 → r.marks? = some marks →
        r.numbers = (marks.1, marks.2.1) := by
      intro r notFloat marked
      cases r with
      | float x => exact absurd rfl notFloat
      | _ =>
          cases marked
          rfl
    have float' : t.rank ≠ 3 := rank ▸ float
    rw [representative_eq_canonical float, representative_eq_canonical float']
    exact canonical_eq_of_parts rank texts ((numbers float hs).trans (numbers float' ht).symm)

/-! ## Sorting scalars that agree -/

theorem order_of_rank_ne (differ : s.rank ≠ t.rank) : order s t = compare s.rank t.rank := by
  have decided : compare s.rank t.rank ≠ .eq := fun eq => differ (Std.LawfulEqOrd.eq_of_compare eq)
  rw [order_eq]
  simp only [compareLex, compareOn]
  cases known : compare s.rank t.rank with
  | eq => exact absurd known decided
  | lt => rfl
  | gt => rfl

/-- No pattern comes between those of the two zeros. -/
theorem order_unsignedZero {x y : Binary64} (h : (Binary64.order x y).isLE = true) :
    (Binary64.order x.unsignedZero y.unsignedZero).isLE = true := by
  have key : ∀ z : Binary64, Binary64.orderKey z.unsignedZero =
      if Binary64.orderKey z = 0 ∨ Binary64.orderKey z = -1 then 0 else Binary64.orderKey z := by
    intro z
    unfold Binary64.unsignedZero
    by_cases zero : (z.toFloat == 0) = true
    · rw [if_pos zero, if_pos (Binary64.toFloat_beq_zero_iff_orderKey.1 zero)]
      decide +kernel
    · rw [if_neg zero, if_neg fun known => zero (Binary64.toFloat_beq_zero_iff_orderKey.2 known)]
  unfold Binary64.order at h ⊢
  rw [Std.isLE_compare] at h ⊢
  rw [key x, key y]
  split <;> split <;> omega

theorem order_representative (h : (order s t).isLE = true) :
    (order s.representative t.representative).isLE = true := by
  by_cases same : s.rank = t.rank
  · by_cases float : s.rank = 3
    · obtain ⟨x, rfl⟩ := exists_float_of_rank float
      obtain ⟨y, rfl⟩ := exists_float_of_rank (same.symm.trans float)
      exact order_unsignedZero h
    · rw [representative_eq_canonical float, representative_eq_canonical (same ▸ float),
        order_canonical]
      exact h
  · rw [order_of_rank_ne same] at h
    rw [order_of_rank_ne (by rwa [rank_representative, rank_representative]), rank_representative,
      rank_representative]
    exact h

/-- Collections whose scalars have the same representatives have them in the same places when they
are sorted. -/
theorem map_representative_sort {ss ts : List Scalar}
    (h : (ss.map representative).Perm (ts.map representative)) :
    (sort ss).map representative = (sort ts).map representative := by
  have sorted : ∀ us : List Scalar, ((sort us).map representative).Pairwise
      fun s t => (order s t).isLE = true := fun us =>
    List.pairwise_map.2 ((pairwise_sort us).imp order_representative)
  have perm : ((sort ss).map representative).Perm ((sort ts).map representative) :=
    (((List.mergeSort_perm ss _).map _).trans h).trans ((List.mergeSort_perm ts _).map _).symm
  refine List.Perm.eq_of_pairwise (fun s t hs ht le ge => ?_) (sorted ss) (sorted ts) perm
  -- Representatives are in canonical form, so they are identical when neither comes first.
  obtain ⟨u, -, rfl⟩ := List.mem_map.1 hs
  obtain ⟨v, -, rfl⟩ := List.mem_map.1 ht
  rw [← canonical_representative u, ← canonical_representative v]
  exact canonical_eq_of_order (Std.OrientedCmp.isLE_antisymm le ge)

end Scalar

namespace Comparison

theorem scalarsAgree_iff {ss ts : List Scalar} :
    scalarsAgree ss ts = true ↔ List.Forall₂ (fun s t => s.agrees t = true) ss ts := by
  induction ss generalizing ts with
  | nil => cases ts <;> simp [scalarsAgree]
  | cons s rest ih =>
      cases ts with
      | nil => simp [scalarsAgree]
      | cons t more => rw [scalarsAgree, Bool.and_eq_true, ih, List.forall₂_cons]

/-- Scalars that agree place by place have the same representatives, and those of the second list
agree with themselves. -/
theorem representatives_of_places {ss ts : List Scalar}
    (places : List.Forall₂ (fun s t => s.agrees t = true) ss ts) :
    ss.map Scalar.representative = ts.map Scalar.representative ∧
      ∀ t ∈ ts, t.agrees t = true := by
  induction places with
  | nil => simp
  | @cons s t ss ts agree _ ih =>
      obtain ⟨same, selves⟩ := ih
      have itself : t.agrees t = true := Scalar.agrees_trans (Scalar.agrees_symm agree) agree
      refine ⟨?_, List.forall_mem_cons.2 ⟨itself, selves⟩⟩
      rw [List.map_cons, List.map_cons, same, Scalar.representative_eq_of_agrees agree]

/-- Scalars of the same representatives agree place by place when those of the second list agree
with themselves. -/
theorem places_of_representatives {ss ts : List Scalar}
    (same : ss.map Scalar.representative = ts.map Scalar.representative)
    (selves : ∀ t ∈ ts, t.agrees t = true) :
    List.Forall₂ (fun s t => s.agrees t = true) ss ts := by
  induction ss generalizing ts with
  | nil =>
      cases ts with
      | nil => exact .nil
      | cons t more => cases same
  | cons s rest ih =>
      cases ts with
      | nil => cases same
      | cons t more =>
          obtain ⟨first, others⟩ := List.cons.inj same
          obtain ⟨itself, selves⟩ := List.forall_mem_cons.1 selves
          exact .cons (Scalar.agrees_of_representative_eq itself first) (ih others selves)

/-- Sorted collections agree place by place exactly when the scalars of the one can be paired with
the scalars of the other. -/
theorem scalarsAgree_sort_iff {ss ts : List Scalar} :
    scalarsAgree (Scalar.sort ss) (Scalar.sort ts) = true ↔
      ∃ e : Fin ss.length ≃ Fin ts.length, ∀ k, (ss.get k).agrees (ts.get (e k)) = true := by
  have pairing : (∃ e : Fin ss.length ≃ Fin ts.length,
      ∀ k, (ss.get k).agrees (ts.get (e k)) = true) ↔
        ∃ zs, zs.Perm ts ∧ List.Forall₂ (fun s t => s.agrees t = true) ss zs :=
    Pairing.exists_equiv_iff (R := fun s t : Scalar => s.agrees t = true)
  rw [scalarsAgree_iff, pairing]
  constructor
  · intro places
    obtain ⟨zs, places, perm⟩ :=
      List.perm_comp_forall₂ (List.mergeSort_perm ss _).symm places
    exact ⟨zs, perm.trans (List.mergeSort_perm ts _), places⟩
  · rintro ⟨zs, perm, places⟩
    -- The sorted lists themselves need not be paired as `places` says, but their representatives
    -- are the same, and no scalar that has been paired is without number.
    obtain ⟨same, selves⟩ := representatives_of_places places
    have sorted : (Scalar.sort ss).map Scalar.representative =
        (Scalar.sort ts).map Scalar.representative :=
      Scalar.map_representative_sort (same ▸ perm.map _)
    refine places_of_representatives sorted fun t ht => selves t ?_
    exact perm.mem_iff.2 ((List.mergeSort_perm ts _).mem_iff.1 ht)

end Comparison

/-! ## Fields of one name -/

namespace Keyed

variable {α β : Type} {entries : List (String × α)} {others : List (String × β)}

/-- The keys of a list whose keys are distinct have the values that they are listed with. -/
theorem lookup_eq_some_iff_mem (distinct : (entries.map Prod.fst).Nodup) {name : String}
    {value : α} : entries.lookup name = some value ↔ (name, value) ∈ entries := by
  induction entries with
  | nil => simp
  | cons entry rest ih =>
      obtain ⟨key, old⟩ := entry
      obtain ⟨fresh, distinct⟩ := List.nodup_cons.1 distinct
      rw [lookup_cons, List.mem_cons]
      by_cases same : name = key
      · subst same
        have absent : (name, value) ∉ rest := fun mem => fresh (List.mem_map.2 ⟨_, mem, rfl⟩)
        simp [absent, eq_comm]
      · simp [same, ih distinct]

/-- Two lists of one length, in which every key of the first has a related value in the second, have
the same keys. -/
theorem related_iff {R : α → β → Prop} (distinct : (entries.map Prod.fst).Nodup)
    (distinct' : (others.map Prod.fst).Nodup) :
    (entries.length = others.length ∧
        ∀ entry ∈ entries, ∃ other, others.lookup entry.1 = some other ∧ R entry.2 other) ↔
      (∀ name, name ∈ entries.map Prod.fst ↔ name ∈ others.map Prod.fst) ∧
        ∀ name value other, (name, value) ∈ entries → (name, other) ∈ others → R value other := by
  constructor
  · rintro ⟨count, found⟩
    have part : entries.map Prod.fst ⊆ others.map Prod.fst := by
      intro name listed
      obtain ⟨entry, mem, rfl⟩ := List.mem_map.1 listed
      obtain ⟨other, known, -⟩ := found entry mem
      exact List.mem_map.2 ⟨_, (lookup_eq_some_iff_mem distinct').1 known, rfl⟩
    have perm : (entries.map Prod.fst).Perm (others.map Prod.fst) :=
      (distinct.subperm part).perm_of_length_le (by simp [count])
    refine ⟨fun name => perm.mem_iff, fun name value other mem mem' => ?_⟩
    obtain ⟨known, here, related⟩ := found (name, value) mem
    rw [(lookup_eq_some_iff_mem distinct').2 mem'] at here
    cases here
    exact related
  · rintro ⟨names, related⟩
    have perm : (entries.map Prod.fst).Perm (others.map Prod.fst) :=
      (List.perm_ext_iff_of_nodup distinct distinct').2 names
    refine ⟨by simpa using perm.length_eq, fun entry mem => ?_⟩
    obtain ⟨⟨name, other⟩, mem', same⟩ :=
      List.mem_map.1 ((names entry.1).1 (List.mem_map_of_mem mem))
    obtain rfl : name = entry.1 := same
    exact ⟨other, (lookup_eq_some_iff_mem distinct').2 mem', related _ _ _ mem mem'⟩

end Keyed

/-! ## Equality of values -/

mutual

/-- A record maps names to values: no record, at any depth, has two fields of one name. -/
def Payload.NamesDistinct : Payload → Prop
  | .null => True
  | .single _ => True
  | .list _ => True
  | .record fields => (fields.map Prod.fst).Nodup ∧ Value.FieldsNamesDistinct fields

def Value.NamesDistinct : Value → Prop
  | .mk _ _ p => p.NamesDistinct

def Value.FieldsNamesDistinct : List (String × Value) → Prop
  | [] => True
  | (_, field) :: rest => field.NamesDistinct ∧ Value.FieldsNamesDistinct rest

end

theorem Value.fieldsNamesDistinct_iff {fields : List (String × Value)} :
    FieldsNamesDistinct fields ↔ ∀ entry ∈ fields, entry.2.NamesDistinct := by
  induction fields with
  | nil => simp [FieldsNamesDistinct]
  | cons entry rest ih =>
      obtain ⟨name, field⟩ := entry
      rw [FieldsNamesDistinct, ih, List.forall_mem_cons]

/-- Values that are equal, whatever their base types are: sequences place by place, collections by a
pairing of their scalars, and records field by field. -/
inductive Value.Equal : Value → Value → Prop where
  | null {c : Cardinality} {a b : Option BaseType} : Equal (.mk c a .null) (.mk c b .null)
  | single {a b : Option BaseType} {s t : Scalar} (agree : s.agrees t = true) :
      Equal (.mk .single a (.single s)) (.mk .single b (.single t))
  | ordered {a b : Option BaseType} {ss ts : List Scalar}
      (places : List.Forall₂ (fun s t => s.agrees t = true) ss ts) :
      Equal (.mk .ordered a (.list ss)) (.mk .ordered b (.list ts))
  | multiple {a b : Option BaseType} {ss ts : List Scalar} (e : Fin ss.length ≃ Fin ts.length)
      (pairs : ∀ k, (ss.get k).agrees (ts.get (e k)) = true) :
      Equal (.mk .multiple a (.list ss)) (.mk .multiple b (.list ts))
  | record {a b : Option BaseType} {fields others : List (String × Value)}
      (names : ∀ name, name ∈ fields.map Prod.fst ↔ name ∈ others.map Prod.fst)
      (equal : ∀ name field other, (name, field) ∈ fields → (name, other) ∈ others →
        Equal field other) :
      Equal (.mk .record a (.record fields)) (.mk .record b (.record others))

namespace Comparison

/-- Scalars that fit the base type of a payload are of its kind already. -/
theorem normalized_of_fits {c : Cardinality} {b : Option BaseType} {p : Payload}
    (fits : ∀ s ∈ p.scalars, s.FitsIn b) :
    p.normalized c b = if c = .multiple then Scalar.sort p.scalars else p.scalars :=
  Payload.normalized_of_settledIn fun s hs => (fits s hs).settledIn

theorem normalized_of_wellFormed {c : Cardinality} {b : Option BaseType} {p : Payload}
    (formed : p.WellFormed c b) :
    p.normalized c b = if c = .multiple then Scalar.sort p.scalars else p.scalars :=
  normalized_of_fits fun _ => Value.Typed.fitsIn (.inl (Value.wellFormed_mk.2 formed))

theorem singlesAgree_iff {c : Cardinality} {a b : Option BaseType} {s t : Scalar}
    (first : (Payload.single s).WellFormed c a) (second : (Payload.single t).WellFormed c b) :
    scalarsAgree ((Payload.single s).normalized c a) ((Payload.single t).normalized c b) = true ↔
      (Value.mk c a (.single s)).Equal (.mk c b (.single t)) := by
  rw [normalized_of_wellFormed first, normalized_of_wellFormed second]
  obtain ⟨rfl, -⟩ := first
  rw [if_neg (by decide), if_neg (by decide), scalarsAgree_iff]
  simp only [Payload.scalars, List.forall₂_cons, List.forall₂_nil_left_iff, and_true]
  constructor
  · exact .single
  · intro equal
    cases equal with
    | single agree => exact agree

theorem listsAgree_iff {c : Cardinality} {a b : Option BaseType} {ss ts : List Scalar}
    (first : (Payload.list ss).WellFormed c a) (second : (Payload.list ts).WellFormed c b) :
    scalarsAgree ((Payload.list ss).normalized c a) ((Payload.list ts).normalized c b) = true ↔
      (Value.mk c a (.list ss)).Equal (.mk c b (.list ts)) := by
  rw [normalized_of_wellFormed first, normalized_of_wellFormed second]
  obtain ⟨container, -⟩ := first
  cases c with
  | single | record => cases container
  | ordered =>
      rw [if_neg (by decide), if_neg (by decide), scalarsAgree_iff]
      constructor
      · exact .ordered
      · intro equal
        cases equal with
        | ordered places => exact places
  | multiple =>
      rw [if_pos rfl, if_pos rfl]
      refine scalarsAgree_sort_iff.trans ⟨?_, ?_⟩
      · rintro ⟨e, pairs⟩
        exact .multiple e pairs
      · intro equal
        cases equal with
        | multiple e pairs => exact ⟨e, pairs⟩

/-- A value is found to be equal to others exactly when it is, if its payload is. -/
theorem valuesAgree_iff_of_payload {c : Cardinality} {a : Option BaseType} {p : Payload} {w : Value}
    (h : ∀ {b q}, q.WellFormed c b → q.NamesDistinct →
      (payloadsAgree c a p b q = true ↔ (Value.mk c a p).Equal (.mk c b q)))
    (formed : w.WellFormed) (distinct : w.NamesDistinct) :
    valuesAgree (.mk c a p) w = true ↔ (Value.mk c a p).Equal w := by
  obtain ⟨d, b, q⟩ := w
  rw [Value.wellFormed_mk] at formed
  simp only [Value.NamesDistinct] at distinct
  simp only [valuesAgree, Bool.and_eq_true, beq_iff_eq]
  constructor
  · rintro ⟨rfl, agree⟩
    exact (h formed distinct).1 agree
  · intro equal
    obtain rfl : c = d := by cases equal <;> rfl
    exact ⟨rfl, (h formed distinct).2 equal⟩

mutual

/-- Well-formed payloads of one cardinality are found to be equal exactly when they are. -/
theorem payloadsAgree_iff {c : Cardinality} {a b : Option BaseType} : ∀ {p q : Payload},
    p.WellFormed c a → q.WellFormed c b → p.NamesDistinct → q.NamesDistinct →
      (payloadsAgree c a p b q = true ↔ (Value.mk c a p).Equal (.mk c b q))
  | .null, q, _, _, _, _ => by
      simp only [payloadsAgree]
      cases q with
      | null => exact iff_of_true rfl .null
      | single | list | record => exact iff_of_false Bool.false_ne_true nofun
  | .single s, q, hp, hq, _, _ => by
      obtain ⟨rfl, -⟩ := id hp
      have single : (Cardinality.single != .record) = true := rfl
      simp only [payloadsAgree, single, Bool.and_true]
      cases q with
      | null => exact iff_of_false Bool.false_ne_true nofun
      | single t => exact singlesAgree_iff hp hq
      | list ts => cases hq.1
      | record others => cases hq.1
  | .list ss, q, hp, hq, _, _ => by
      have notRecord : (c != .record) = true := bne_iff_ne.2 fun record => by
        rw [record] at hp
        cases hp.1
      simp only [payloadsAgree, notRecord, Bool.and_true]
      cases q with
      | null => exact iff_of_false Bool.false_ne_true nofun
      | single t =>
          rw [hq.1] at hp
          cases hp.1
      | list ts => exact listsAgree_iff hp hq
      | record others =>
          rw [hq.1] at hp
          cases hp.1
  | .record fields, q, hp, hq, dp, dq => by
      obtain ⟨rfl, -, formed⟩ := hp
      have record : (Cardinality.record != .record) = false := rfl
      simp only [payloadsAgree]
      cases q with
      | null => exact iff_of_false Bool.false_ne_true nofun
      | single t => cases hq.1
      | list ts => cases hq.1
      | record others =>
          simp only [Payload.NamesDistinct] at dp dq
          simp only [record, Bool.false_or, Bool.and_eq_true, beq_iff_eq]
          rw [fieldsAgree_iff formed hq.2.2 dp.2 dq.2, Keyed.related_iff dp.1 dq.1]
          constructor
          · rintro ⟨names, equal⟩
            exact .record names equal
          · intro equal
            cases equal with
            | record names equal => exact ⟨names, equal⟩

theorem fieldsAgree_iff : ∀ {fields others : List (String × Value)},
    Value.FieldsWellFormed fields → Value.FieldsWellFormed others →
    Value.FieldsNamesDistinct fields → Value.FieldsNamesDistinct others →
      (fieldsAgree fields others = true ↔ ∀ entry ∈ fields, ∃ other,
        others.lookup entry.1 = some other ∧ entry.2.Equal other)
  | [], others, _, _, _, _ => by simp [fieldsAgree]
  | (name, .mk c a p) :: rest, others, hf, ho, df, eo => by
      obtain ⟨formed, restFormed⟩ := hf
      obtain ⟨distinct, restDistinct⟩ := df
      rw [fieldsAgree, Bool.and_eq_true, fieldsAgree_iff restFormed ho restDistinct eo,
        List.forall_mem_cons]
      refine and_congr_left fun _ => ?_
      cases known : others.lookup name with
      | none => simp
      | some other =>
          obtain ⟨before, after, listed, -⟩ := List.lookup_eq_some_iff.1 known
          have mem : (name, other) ∈ others := by simp [listed]
          have agree : valuesAgree (.mk c a p) other = true ↔ (Value.mk c a p).Equal other := by
            simp only [Value.wellFormed_mk, Value.NamesDistinct] at formed distinct
            exact valuesAgree_iff_of_payload
              (fun formed' distinct' => payloadsAgree_iff formed formed' distinct distinct')
              (Value.fieldsWellFormed_iff.1 ho _ mem) (Value.fieldsNamesDistinct_iff.1 eo _ mem)
          simpa using agree

end

/-- Well-formed values are found to be equal exactly when they are. -/
theorem valuesAgree_iff {v w : Value} (hv : v.WellFormed) (hw : w.WellFormed)
    (dv : v.NamesDistinct) (dw : w.NamesDistinct) : valuesAgree v w = true ↔ v.Equal w := by
  obtain ⟨c, a, p⟩ := v
  rw [Value.wellFormed_mk] at hv
  simp only [Value.NamesDistinct] at dv
  exact valuesAgree_iff_of_payload (fun hq dq => payloadsAgree_iff hv hq dv dq) hw dw

/-- Two records whose collections are arranged differently, one with the zero that has a sign. -/
theorem zeros_equal :
    let marks (x y : Float) : Value :=
      .mk .record none (.record [("marks", .mk .multiple (some .float)
        (.list [.float (.ofFloat x), .float (.ofFloat y)]))])
    valuesAgree (marks 0 2.5) (marks 2.5 (-0)) = true := by
  intro marks
  have pairs : ∀ k, Scalar.agrees ([.float (.ofFloat 0), .float (.ofFloat 2.5)].get k)
      ([.float (.ofFloat 2.5), .float (.ofFloat (-0))].get (Equiv.swap 0 1 k)) = true := by
    decide +kernel
  have formed : ∀ x y, (marks x y).WellFormed := by
    intro x y
    simp [marks, Payload.WellFormed, Value.FieldsWellFormed, Cardinality.isContainer, Scalar.fits]
  have distinct : ∀ x y, (marks x y).NamesDistinct := by
    intro x y
    simp [marks, Value.NamesDistinct, Payload.NamesDistinct, Value.FieldsNamesDistinct]
  refine (valuesAgree_iff (formed _ _) (formed _ _) (distinct _ _) (distinct _ _)).2 ?_
  refine .record (fun name => Iff.rfl) fun name field other first second => ?_
  obtain ⟨rfl, rfl⟩ := Prod.mk.inj (List.mem_singleton.1 first)
  obtain rfl := (Prod.mk.inj (List.mem_singleton.1 second)).2
  exact .multiple (Equiv.swap 0 1) pairs

end Comparison

end ItemScoring
