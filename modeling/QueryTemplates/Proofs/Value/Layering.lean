import QueryTemplates.Proofs.Value.Lookup

/-!
# Laying mappings over one another

What is found at a key of a merged mapping is decided at that key alone: what the upper mapping has
there is laid over what the lower one has. From this it follows that a layer which lies within a
merged mapping already may be put below it once more without changing what is found.

About `SPEC_FULL.md` §10.3 (lines 174–178).
-/

namespace QueryTemplates

/-- A value has entries exactly when it is a mapping under its marks. -/
theorem Value.entries?_eq_some_iff {v : Value} {m : Mapping} :
    v.entries? = some m ↔ v.bare = .map m := by
  rw [entries?]
  split
  · next hbare => rw [hbare, Option.some.injEq, Value.map.injEq]
  · next hother => exact ⟨nofun, fun hbare => absurd hbare (hother m)⟩

/-- What holds of a mapping, and of a loop when it holds of its content, holds of every value that
has the entries of that mapping. -/
@[elab_as_elim]
theorem Value.induct_of_entries? {m : Mapping} {motive : Value → Prop} (map : motive (.map m))
    (loop : ∀ mark content, content.entries? = some m → motive content →
      motive (.loop mark content)) {v : Value} (h : v.entries? = some m) : motive v := by
  induction v using Value.bare.induct with
  | case1 mark content ih => exact loop mark content h (ih h)
  | case2 v hloop =>
    cases v with
    | map entries =>
      obtain rfl := Option.some.inj h
      exact map
    | loop mark content => exact absurd rfl (hloop mark content)
    | _ => cases h

theorem Value.sizeOf_entries? {v : Value} {m : Mapping} (h : v.entries? = some m) :
    sizeOf m < sizeOf v := by
  refine induct_of_entries? ?_ ?_ h
  · simp only [map.sizeOf_spec]
    omega
  · intro mark content _ hcontent
    simp only [loop.sizeOf_spec]
    omega

namespace Mapping

/-! ### One value over another -/

section

variable {before : Option Value} {v : Value} {old m : Mapping}

/-- Over anything but a mapping a value stands as it is. -/
theorem mergeValue_of_ofValue?_none (h : ofValue? before = none) (v : Value) :
    mergeValue before v = v := by
  cases v with
  | map entries => rw [mergeValue, h]
  | loop mark content => rw [mergeValue, h]
  | _ =>
    rw [mergeValue]
    all_goals
      intros
      contradiction

/-- A mapping over a mapping is the two merged. -/
theorem mergeValue_of_entries? (hbefore : ofValue? before = some old)
    (hv : v.entries? = some m) : mergeValue before v = .map (merge old m) := by
  refine Value.induct_of_entries? ?_ ?_ hv
  · rw [mergeValue, hbefore]
  · intro mark content hcontent ih
    rw [mergeValue, hbefore, hcontent]
    exact ih

/-- Two mappings merge to the entries of both. -/
theorem entries?_mergeValue (hbefore : ofValue? before = some old) (hv : v.entries? = some m) :
    (mergeValue before v).entries? = some (merge old m) := by
  rw [mergeValue_of_entries? hbefore hv, Value.entries?_map]

end

/-! ### One mapping over another -/

section

variable {base override : Mapping}

/-- What is found after merging is what the upper mapping has laid over what the lower one has. -/
theorem get?_merge (h : override.Distinct) (key : Scalar) :
    get? (merge base override) key =
      match get? override key with
      | none => get? base key
      | some v => some (mergeValue (get? base key) v) := by
  induction override generalizing base with
  | nil => rw [merge_nil_right]; rfl
  | cons entry rest ih =>
    obtain ⟨k, v⟩ := entry
    obtain ⟨hk, hrest⟩ := List.pairwise_cons.mp h
    rw [merge_cons, ih hrest, get?_set, get?_cons]
    by_cases hsame : k.same key = true
    · have hnone : get? rest key = none := by
        rw [← get?_congr hsame, get?_eq_none_iff]
        intro a ha
        rw [Scalar.same_comm]
        exact hk a ha
      rw [hnone, if_pos hsame, if_pos hsame, get?_congr hsame]
    · rw [if_neg hsame, if_neg hsame]

/-- Merging repeats no key. -/
theorem Distinct.merge (h : base.Distinct) (override : Mapping) :
    (Mapping.merge base override).Distinct := by
  induction override generalizing base with
  | nil => rwa [merge_nil_right]
  | cons entry rest ih =>
    obtain ⟨k, v⟩ := entry
    rw [merge_cons]
    exact ih (h.set k _)

/-- Entries with keys of their own follow those that are there. -/
theorem merge_eq_append (h : Distinct (base ++ override)) :
    merge base override = base ++ override := by
  induction override generalizing base with
  | nil => simp
  | cons entry rest ih =>
    obtain ⟨k, v⟩ := entry
    have hnone : get? base k = none := by
      rw [get?_eq_none_iff]
      intro a ha
      rw [Distinct, keys, List.map_append, List.pairwise_append] at h
      exact h.2.2 a ha k (by simp)
    rw [merge_cons, hnone, mergeValue_none, set_of_get?_eq_none hnone, ih, List.append_assoc]
    · rfl
    · rwa [List.append_assoc]

theorem merge_nil_left (h : override.Distinct) : merge [] override = override :=
  merge_eq_append h

/-- A mapping is merged with the one that is there, and with an empty one where none is. -/
theorem mergeValue_map (h : override.Distinct) (before : Option Value) :
    mergeValue before (.map override) = .map (merge ((ofValue? before).getD []) override) := by
  cases hold : ofValue? before with
  | none => rw [mergeValue_of_ofValue?_none hold, Option.getD_none, merge_nil_left h]
  | some old => exact mergeValue_of_entries? hold (Value.entries?_map override)

end

/-! ### What holds of all values -/

section

variable {P : Value → Prop}

theorem forall_mem_set {m : Mapping} {v : Value} (h : ∀ entry ∈ m, P entry.2) (hv : P v)
    (key : Scalar) : ∀ entry ∈ set m key v, P entry.2 := by
  induction m with
  | nil =>
    intro entry hmem
    obtain rfl := List.mem_singleton.mp hmem
    exact hv
  | cons first rest ih =>
    obtain ⟨k, w⟩ := first
    obtain ⟨hw, hrest⟩ := List.forall_mem_cons.mp h
    rw [set_cons]
    split
    · exact List.forall_mem_cons.mpr ⟨hv, hrest⟩
    · exact List.forall_mem_cons.mpr ⟨hw, ih hrest⟩

/-- What is found at a key is one of the values. -/
theorem of_get? {m : Mapping} {key : Scalar} {v : Value} (h : ∀ entry ∈ m, P entry.2)
    (hget : get? m key = some v) : P v := by
  obtain ⟨entry, hmem, rfl⟩ := mem_of_get? hget
  exact h entry hmem

/-- A property that a mapping hands down to its values, and that two mappings over one another have
when their values have it, holds of all values of a merged mapping. -/
theorem forall_mem_merge
    (parts : ∀ {v : Value} {m : Mapping}, P v → v.entries? = some m → ∀ entry ∈ m, P entry.2)
    (whole : ∀ {w v : Value} {old m : Mapping}, P w → w.entries? = some old →
      v.entries? = some (merge old m) → (∀ entry ∈ merge old m, P entry.2) → P v)
    {base override : Mapping} (hbase : ∀ entry ∈ base, P entry.2)
    (hover : ∀ entry ∈ override, P entry.2) : ∀ entry ∈ merge base override, P entry.2 := by
  match override with
  | [] => rwa [merge_nil_right]
  | (key, v) :: rest =>
    obtain ⟨hv, hrest⟩ := List.forall_mem_cons.mp hover
    rw [merge_cons]
    refine forall_mem_merge parts whole (forall_mem_set hbase ?_ key) hrest
    cases hentries : v.entries? with
    | none => rwa [mergeValue_of_entries?_none hentries]
    | some m =>
      cases hold : ofValue? (get? base key) with
      | none => rwa [mergeValue_of_ofValue?_none hold]
      | some old =>
        -- the mappings that meet at the key are merged in turn, and the upper one is smaller
        obtain ⟨w, hw, hwold⟩ := Option.bind_eq_some_iff.mp hold
        have hPw : P w := of_get? hbase hw
        have hsize := Value.sizeOf_entries? hentries
        exact whole hPw hwold (entries?_mergeValue hold hentries)
          (forall_mem_merge parts whole (parts hPw hwold) (parts hv hentries))
termination_by sizeOf override

end

end Mapping

end QueryTemplates
