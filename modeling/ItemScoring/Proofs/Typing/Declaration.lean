import ItemScoring.Proofs.Typing.Casting
import ItemScoring.Proofs.Typing.Session

/-!
# What declarations are read as

Every variable of a session that was read from JSON was read from one declaration. A lookup table is
only read for a variable with a base type, and all that it turns numbers into is read for that base
type. Such a scalar fits the base type, or is made to fit it when it is assigned.
-/

set_option autoImplicit false

namespace ItemScoring

/-! ## Scalars -/

namespace Scalar

variable {b : BaseType} {s : Scalar}

/-- What is read from JSON for a base type fits it, apart from the number that stands for an
unreadable one, which is also read where an integer or an identifier is declared. -/
theorem ofJson_fits {raw : Json} (h : ofJson b raw = .ok s) (plain : b ≠ .intOrIdentifier) :
    s.fits b = true := by
  have stored : s.StoredAs b := storedAs_of_ofJson h fun both => absurd both plain
  exact (storedAs_iff.1 stored).1

/-- Every scalar is made to fit where an integer or an identifier is declared. -/
theorem recast_intOrIdentifier_fits (s : Scalar) :
    (s.recast .intOrIdentifier).fits .intOrIdentifier = true := by
  have recasts := recasts_recast .intOrIdentifier s
  generalize s.recast .intOrIdentifier = t at recasts ⊢
  cases recasts with
  | fitting fits => exact fits
  | widened x float => cases float
  | readable result => exact read_fits result
  | refused result => cases result

/-- What is read from JSON for a base type fits it when it is assigned. -/
theorem recast_fits_of_ofJson {raw : Json} (h : ofJson b raw = .ok s) :
    (s.recast b).fits b = true := by
  by_cases plain : b = .intOrIdentifier
  · subst plain
    exact recast_intOrIdentifier_fits s
  · have fits := ofJson_fits h plain
    rw [recast_of_fits fits]
    exact fits

end Scalar

/-! ## Lookup tables -/

namespace LookupTable

variable {b : BaseType} {j : Json} {target : Scalar}

theorem exists_of_targetOfJson (h : targetOfJson b j = .ok target) :
    ∃ raw, Scalar.ofJson b raw = .ok target := by
  unfold targetOfJson at h
  split at h
  · cases h
  · next raw _ => exact ⟨raw, h⟩

theorem exists_of_matchEntry {entry : MatchEntry} (h : MatchEntry.ofJson b j = .ok entry) :
    ∃ raw, Scalar.ofJson b raw = .ok entry.target := by
  unfold MatchEntry.ofJson at h
  split at h
  · cases h
  · obtain ⟨target, htarget, h⟩ := Result.bind_eq_ok.1 h
    cases h
    exact exists_of_targetOfJson htarget

theorem exists_of_interpolationEntry {entry : InterpolationEntry}
    (h : InterpolationEntry.ofJson b j = .ok entry) :
    ∃ raw, Scalar.ofJson b raw = .ok entry.target := by
  obtain ⟨source, -, h⟩ := Result.bind_eq_ok.1 h
  obtain ⟨target, htarget, h⟩ := Result.bind_eq_ok.1 h
  cases h
  exact exists_of_targetOfJson htarget

/-- The targets of a table are read for a base type when the default is and every entry reads its
own target for it. -/
theorem exists_of_mem_entries {Entry : Type} {read : Json → Except LoadError Entry}
    {targetOf : Entry → Scalar} {default : Option Scalar} {items : List Json}
    {entries : List Entry} (hentries : items.mapM read = .ok entries)
    (hdefault : ∀ t, default = some t → ∃ raw, Scalar.ofJson b raw = .ok t)
    (each : ∀ item entry, read item = .ok entry →
      ∃ raw, Scalar.ofJson b raw = .ok (targetOf entry)) :
    ∀ t ∈ default.toList ++ entries.map targetOf, ∃ raw, Scalar.ofJson b raw = .ok t := by
  intro t ht
  rcases List.mem_append.1 ht with ht | ht
  · exact hdefault t (Option.mem_toList.1 ht)
  · obtain ⟨entry, mem, rfl⟩ := List.mem_map.1 ht
    obtain ⟨item, -, hitem⟩ := Result.exists_mem_of_mapM hentries mem
    exact each item entry hitem

/-- A table is read for a base type, and all its targets are read for that base type. -/
theorem exists_of_mem_targets {baseType : Option BaseType} {table : LookupTable}
    (h : LookupTable.ofJson baseType j = .ok table) :
    ∃ b, baseType = some b ∧ ∀ t ∈ table.targets, ∃ raw, Scalar.ofJson b raw = .ok t := by
  cases baseType with
  | none => cases h
  | some b =>
      refine ⟨b, rfl, ?_⟩
      unfold LookupTable.ofJson at h
      dsimp -zeta only at h
      -- The work after the default is the same whichever way the default was read.
      extract_lets rest at h
      obtain ⟨default, hdefault, h⟩ : ∃ default : Option Scalar,
          (∀ t, default = some t → ∃ raw, Scalar.ofJson b raw = .ok t) ∧
            rest default = .ok table := by
        split at h
        · exact ⟨none, by simp, h⟩
        · exact ⟨none, by simp, h⟩
        · next raw _ _ =>
            obtain ⟨default, hdefault, h⟩ := Result.bind_eq_ok.1 h
            obtain ⟨t, read, rfl⟩ := Result.map_eq_ok.1 hdefault
            refine ⟨some t, fun t' ht' => ⟨raw, ?_⟩, h⟩
            cases ht'
            exact read
      obtain ⟨kind, -, h⟩ := Result.bind_eq_ok.1 h
      split at h
      · obtain ⟨items, -, h⟩ := Result.bind_eq_ok.1 h
        obtain ⟨entries, hentries, h⟩ := Result.bind_eq_ok.1 h
        cases h
        exact exists_of_mem_entries hentries hdefault fun _ _ => exists_of_matchEntry
      split at h
      · obtain ⟨items, -, h⟩ := Result.bind_eq_ok.1 h
        obtain ⟨entries, hentries, h⟩ := Result.bind_eq_ok.1 h
        cases h
        exact exists_of_mem_entries hentries hdefault fun _ _ => exists_of_interpolationEntry
      · cases h

end LookupTable

/-! ## Variables and sessions -/

/-- The table of a variable is read from a member of its declaration, for its base type. -/
theorem Variable.exists_of_lookupTable {j : Json} {v : Variable} {table : LookupTable}
    (h : Variable.ofJson j = .ok v) (htable : v.lookupTable = some table) :
    ∃ raw, LookupTable.ofJson v.baseType raw = .ok table := by
  unfold Variable.ofJson at h
  obtain ⟨identifier, -, h⟩ := Result.bind_eq_ok.1 h
  extract_lets afterCardinality at h
  obtain ⟨cardinality, h⟩ : ∃ cardinality, afterCardinality cardinality = .ok v := by
    split at h
    · obtain ⟨cardinality, -, h⟩ := Result.bind_eq_ok.1 h
      exact ⟨cardinality, h⟩
    · exact ⟨.single, h⟩
  obtain ⟨baseType, -, h⟩ := Result.bind_eq_ok.1 h
  obtain ⟨defaultValue, -, h⟩ := Result.bind_eq_ok.1 h
  extract_lets afterValue at h
  obtain ⟨value, h⟩ : ∃ value, afterValue value = .ok v := by
    split at h
    · obtain ⟨value, -, h⟩ := Result.bind_eq_ok.1 h
      exact ⟨value, h⟩
    · exact ⟨defaultValue, h⟩
  obtain ⟨correctResponse, -, h⟩ := Result.bind_eq_ok.1 h
  obtain ⟨mapping, -, h⟩ := Result.bind_eq_ok.1 h
  obtain ⟨areaMapping, -, h⟩ := Result.bind_eq_ok.1 h
  obtain ⟨lookupTable, read, h⟩ := Result.bind_eq_ok.1 h
  cases h
  obtain rfl : lookupTable = some table := htable
  unfold Variable.optionalField at read
  split at read
  · cases read
  · next raw _ =>
      obtain ⟨table', read, same⟩ := Result.map_eq_ok.1 read
      cases same
      exact ⟨raw, read⟩

namespace Session

variable {s t : Session} {v : Variable}

/-- Variables that are declared one after the other were there before or are read from one of the
declarations. -/
theorem mem_of_declareAll {items : List Json} (h : s.declareAll items = .ok t)
    (hv : v ∈ t.declared) : v ∈ s.declared ∨ ∃ item ∈ items, Variable.ofJson item = .ok v := by
  induction items generalizing s with
  | nil =>
      cases h
      exact .inl hv
  | cons item rest ih =>
      obtain ⟨new, read, h⟩ := Result.bind_eq_ok.1 h
      rcases ih h with before | ⟨later, mem, read'⟩
      · rcases mem_place before with rfl | before
        · exact .inr ⟨item, List.mem_cons_self, read⟩
        · exact .inl before
      · exact .inr ⟨later, List.mem_cons_of_mem _ mem, read'⟩

/-- Every variable of a session that is read is read from a declaration. -/
theorem exists_of_ofJson {declarations : Json} (loaded : Session.ofJson declarations = .ok s)
    (hv : v ∈ s.declared) : ∃ item, Variable.ofJson item = .ok v := by
  unfold Session.ofJson at loaded
  split at loaded
  · cases loaded
  · rcases mem_of_declareAll loaded hv with before | ⟨item, -, read⟩
    · cases before
    · exact ⟨item, read⟩

/-- The scalars that the table of a variable turns numbers into are made to fit its base type. -/
theorem exists_recast_of_mem_targets {declarations : Json}
    (loaded : Session.ofJson declarations = .ok s) (hv : v ∈ s.declared) {table : LookupTable}
    (htable : v.lookupTable = some table) :
    ∃ b, v.baseType = some b ∧ ∀ t ∈ table.targets, (t.recast b).fits b = true := by
  obtain ⟨item, read⟩ := exists_of_ofJson loaded hv
  obtain ⟨raw, hraw⟩ := Variable.exists_of_lookupTable read htable
  obtain ⟨b, hb, targets⟩ := LookupTable.exists_of_mem_targets hraw
  refine ⟨b, hb, fun t ht => ?_⟩
  obtain ⟨raw, read⟩ := targets t ht
  exact Scalar.recast_fits_of_ofJson read

end Session

end ItemScoring
