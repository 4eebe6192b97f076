import QueryTemplates.Proofs.Value.Reach

/-!
# Layers in groups

Of three layers the lower two may be merged first, or the upper two: the result is the same, down to
the order of the entries, unless a mapping in the lowest layer meets a mapping in the uppermost one
across something else in the middle one. Merging the upper two first then hides that the lowest
one was replaced. An empty layer changes nothing, and neither does a layer that is laid over the
result once more.

A mapping is told by its keys in their order and by what is found at them, and both are known for
merged mappings. So each law is shown at one key, where the laws of the mappings that meet there
are at hand.

About `SPEC_FULL.md` §10.3 (lines 174–178).
-/

namespace QueryTemplates

/-- Some path leads to a mapping in the lowest and in the uppermost of three values, and to
something else in the middle one. -/
def Value.Collide (lower middle upper : Value) : Prop :=
  ∃ path x y z, lower.reach? path = some x ∧ middle.reach? path = some y ∧
    upper.reach? path = some z ∧ x.entries? ≠ none ∧ y.entries? = none ∧ z.entries? ≠ none

/-- Mappings within mappings, none of which repeats a key or holds itself. -/
inductive Value.Nested : Value → Prop
  | mapping {m : Mapping} (hdistinct : m.Distinct) (hvalues : ∀ entry ∈ m, Nested entry.2) :
    Nested (.map m)
  | other {v : Value} (hentries : v.entries? = none) (hends : v.bare ≠ .endless) : Nested v

/-- A mapping of nested mappings and other values, each at a key of its own. -/
structure Mapping.Nested (m : Mapping) : Prop where
  distinct : m.Distinct
  values : ∀ entry ∈ m, entry.2.Nested

namespace Value

variable {lower middle upper v : Value} {m : Mapping}

/-- Three values collide at once or at a key that leads on in all of them. -/
theorem collide_iff :
    Collide lower middle upper ↔
      (lower.entries? ≠ none ∧ middle.entries? = none ∧ upper.entries? ≠ none) ∨
        ∃ key x y z, lower.part? key = some x ∧ middle.part? key = some y ∧
          upper.part? key = some z ∧ Collide x y z := by
  constructor
  · rintro ⟨path, x', y', z', hx', hy', hz', hmeet⟩
    cases path with
    | nil =>
      obtain rfl := Option.some.inj hx'
      obtain rfl := Option.some.inj hy'
      obtain rfl := Option.some.inj hz'
      exact .inl hmeet
    | cons key rest =>
      obtain ⟨x, hx, hx'⟩ := Option.bind_eq_some_iff.mp hx'
      obtain ⟨y, hy, hy'⟩ := Option.bind_eq_some_iff.mp hy'
      obtain ⟨z, hz, hz'⟩ := Option.bind_eq_some_iff.mp hz'
      exact .inr ⟨key, x, y, z, hx, hy, hz, rest, x', y', z', hx', hy', hz', hmeet⟩
  · rintro (hmeet | ⟨key, x, y, z, hx, hy, hz, rest, x', y', z', hx', hy', hz', hmeet⟩)
    · exact ⟨[], lower, middle, upper, rfl, rfl, rfl, hmeet⟩
    · refine ⟨key :: rest, x', y', z', ?_, ?_, ?_, hmeet⟩
      · rwa [reach?_cons, hx, Option.bind_some]
      · rwa [reach?_cons, hy, Option.bind_some]
      · rwa [reach?_cons, hz, Option.bind_some]

/-- Nothing collides over a value that is no mapping. -/
theorem not_collide_of_entries?_none (h : lower.entries? = none) (middle upper : Value) :
    ¬Collide lower middle upper := by
  rw [collide_iff]
  rintro (⟨hlower, -, -⟩ | ⟨key, x, y, z, hx, -, -, -⟩)
  · exact hlower h
  · rw [part?_of_entries?_none h] at hx
    cases hx

theorem Nested.wellKeyed (h : v.Nested) : v.WellKeyed := by
  induction h with
  | mapping hdistinct _ ih => exact .mapping rfl hdistinct ih
  | other hentries => exact .other hentries

/-- Nested data has no loops. -/
theorem Nested.ends (h : v.Nested) : v.Ends := by
  induction h with
  | mapping _ _ ih => exact .mapping rfl ih
  | other hentries hends => exact .other hentries hends

end Value

theorem Value.Nested.of_map {m : Mapping} (h : (Value.map m).Nested) : m.Nested := by
  cases h with
  | mapping hdistinct hvalues => exact ⟨hdistinct, hvalues⟩
  | other hentries => cases hentries

namespace Mapping

variable {a b c m base override : Mapping} {x y z v : Value}

theorem Nested.wellKeyed (h : m.Nested) : m.WellKeyed :=
  ⟨h.distinct, fun entry hentry => (h.values entry hentry).wellKeyed⟩

theorem Nested.ends (h : m.Nested) : m.Ends := fun entry hentry => (h.values entry hentry).ends

/-- Merged mappings contain the keys of both. -/
theorem contains_merge (h : override.Distinct) (base : Mapping) (key : Scalar) :
    contains (merge base override) key = (contains base key || contains override key) := by
  rw [contains, contains, contains, get?_merge h]
  cases get? override key with
  | none => exact (Bool.or_false _).symm
  | some v => exact (Bool.or_true _).symm

theorem contains_of_mem_keys {key : Scalar} (h : key ∈ keys m) : contains m key = true := by
  rw [contains_eq_any, List.any_eq_true]
  obtain ⟨entry, hentry, rfl⟩ := List.mem_map.mp h
  exact ⟨entry, hentry, Scalar.same_iff.mpr rfl⟩

/-! ### Three layers -/

/-- The keys of three layers come in one order, however the layers are grouped. -/
theorem keys_merge_assoc (hb : b.Distinct) (hc : c.Distinct) (a : Mapping) :
    keys (merge (merge a b) c) = keys (merge a (merge b c)) := by
  have hnew (key : Scalar) :
      (!contains (merge a b) key) = (!contains a key && !contains b key) := by
    rw [contains_merge hb, Bool.not_or]
  rw [keys_merge hc, keys_merge hb, keys_merge (hb.merge c), keys_merge hc, List.filter_append,
    List.filter_filter, List.append_assoc, List.filter_congr fun key _ => hnew key]

/-- At one place the grouping does not matter if it does not matter for the mappings that meet
there. -/
theorem mergeValue_assoc
    (hmappings : ∀ {a b c : Mapping}, x.entries? = some a → y.entries? = some b →
      z.entries? = some c → merge (merge a b) c = merge a (merge b c))
    (h : ¬Value.Collide x y z) :
    mergeValue (some (mergeValue (some x) y)) z = mergeValue (some x) (mergeValue (some y) z) := by
  cases hz : z.entries? with
  | none =>
    rw [mergeValue_of_entries?_none hz, mergeValue_of_entries?_none hz,
      mergeValue_of_entries?_none hz]
  | some c =>
    have hofx : ofValue? (some x) = x.entries? := rfl
    have hofy : ofValue? (some y) = y.entries? := rfl
    cases hx : x.entries? with
    | none =>
      rw [hx] at hofx
      rw [mergeValue_of_ofValue?_none hofx, mergeValue_of_ofValue?_none hofx]
    | some a =>
      rw [hx] at hofx
      cases hy : y.entries? with
      | none =>
        have hmeet : x.entries? ≠ none ∧ y.entries? = none ∧ z.entries? ≠ none := by
          simp [hx, hy, hz]
        exact absurd (Value.collide_iff.mpr (.inl hmeet)) h
      | some b =>
        rw [hy] at hofy
        have hlower : ofValue? (some (mergeValue (some x) y)) = some (merge a b) :=
          entries?_mergeValue hofx hy
        have hupper : (mergeValue (some y) z).entries? = some (merge b c) :=
          entries?_mergeValue hofy hz
        rw [mergeValue_of_entries? hlower hz, mergeValue_of_entries? hofx hupper,
          hmappings hx hy hz]

/-- Where no mappings meet across something else, the grouping of three layers does not matter. -/
theorem merge_assoc {a b c : Mapping} {x y z : Value} (ha : a.WellKeyed) (hb : b.WellKeyed)
    (hc : c.WellKeyed) (hx : x.entries? = some a) (hy : y.entries? = some b)
    (hz : z.entries? = some c) (h : ¬Value.Collide x y z) :
    merge (merge a b) c = merge a (merge b c) := by
  refine ((ha.distinct.merge b).merge c).ext (keys_merge_assoc hb.distinct hc.distinct a)
    fun key _ => ?_
  rw [get?_merge hc.distinct, get?_merge hb.distinct, get?_merge (hb.distinct.merge c),
    get?_merge hc.distinct]
  cases hgetc : get? c key with
  | none => rfl
  | some z' =>
    cases hgetb : get? b key with
    | none => simp only [mergeValue_none]
    | some y' =>
      cases hgeta : get? a key with
      | none => simp only [mergeValue_none]
      | some x' =>
        have hparts : ¬Value.Collide x' y' z' := by
          intro hcollide
          refine h (Value.collide_iff.mpr (.inr ⟨key, x', y', z', ?_, ?_, ?_, hcollide⟩))
          · rwa [Value.part?_of_entries? hx]
          · rwa [Value.part?_of_entries? hy]
          · rwa [Value.part?_of_entries? hz]
        refine congrArg some (mergeValue_assoc (fun hx' hy' hz' => ?_) hparts)
        -- the mappings that meet at the key: the uppermost is smaller than the one that has it
        have hsize := Nat.lt_trans (Value.sizeOf_entries? hz') (sizeOf_get? hgetc)
        exact merge_assoc (.of_entries? (ha.get? hgeta) hx') (.of_entries? (hb.get? hgetb) hy')
          (.of_entries? (hc.get? hgetc) hz') hx' hy' hz' hparts
termination_by sizeOf c

/-! ### One layer twice -/

/-- A layer laid a second time adds no keys. -/
theorem keys_merge_again (hb : b.Distinct) (a : Mapping) :
    keys (merge (merge a b) b) = keys (merge a b) := by
  have hknown : ∀ key ∈ keys b, ¬(!contains (merge a b) key) = true := by
    intro key hkey
    simp [contains_merge hb, contains_of_mem_keys hkey]
  rw [keys_merge hb, List.filter_eq_nil_iff.mpr hknown, List.append_nil]

/-- What a layer brought to a place stays when it is laid over it once more, if that holds for the
mapping it has there. -/
theorem mergeValue_again (hv : v.Nested) {before : Option Value}
    (hmappings : ∀ {m : Mapping}, v = .map m →
      merge (merge ((ofValue? before).getD []) m) m = merge ((ofValue? before).getD []) m) :
    mergeValue (some (mergeValue before v)) v = mergeValue before v := by
  cases hv with
  | mapping hdistinct hvalues =>
    rw [mergeValue_map hdistinct before, mergeValue_map_map, hmappings rfl]
  | other hentries =>
    rw [mergeValue_of_entries?_none hentries, mergeValue_of_entries?_none hentries]

/-- A layer that was laid over another one already changes nothing. -/
theorem merge_again {a b : Mapping} (ha : a.WellKeyed) (hb : b.Nested) :
    merge (merge a b) b = merge a b := by
  have hmerged : (merge a b).Distinct := ha.distinct.merge b
  refine (hmerged.merge b).ext (keys_merge_again hb.distinct a) fun key _ => ?_
  rw [get?_merge hb.distinct, get?_merge hb.distinct]
  cases hget : get? b key with
  | none => rfl
  | some v =>
    have hv : v.Nested := of_get? hb.values hget
    have hold : WellKeyed ((ofValue? (get? a key)).getD []) := by
      rcases exists_ofValue? ha key with hnone | ⟨old, hold, hkeyed⟩
      · rw [hnone]
        exact .nil
      · rwa [hold]
    refine congrArg some (mergeValue_again hv fun {m} hm => ?_)
    subst hm
    -- the mapping of the layer at the key is smaller than the layer
    have hsize : sizeOf m < sizeOf b :=
      Nat.lt_trans (Value.sizeOf_entries? rfl) (sizeOf_get? hget)
    exact merge_again hold hv.of_map
termination_by sizeOf b

/-- Of three layers of nested mappings the lower two or the upper two may be merged first, unless
they collide; an empty layer changes nothing below or above another one, and a layer changes
nothing when it is laid over the result once more. -/
theorem layer?_regrouped (ha : a.Nested) (hb : b.Nested) (hc : c.Nested) :
    (¬Value.Collide (.map a) (.map b) (.map c) → ∃ merged,
      (layer? a b).bind (layer? · c) = some merged ∧ (layer? b c).bind (layer? a) = some merged) ∧
      layer? [] a = some a ∧ layer? a [] = some a ∧
        ∃ merged, layer? a b = some merged ∧ layer? merged b = some merged := by
  have hlower := layer?_of_ends ha.ends hb.ends
  refine ⟨fun h => ⟨merge (merge a b) c, ?_, ?_⟩, ?_, ?_, merge a b, hlower, ?_⟩
  · rw [hlower, Option.bind_some, layer?_of_ends (ha.ends.merge hb.ends) hc.ends]
  · rw [layer?_of_ends hb.ends hc.ends, Option.bind_some,
      layer?_of_ends ha.ends (hb.ends.merge hc.ends),
      merge_assoc ha.wellKeyed hb.wellKeyed hc.wellKeyed rfl rfl rfl h]
  · rw [layer?_of_ends .nil ha.ends, merge_nil_left ha.distinct]
  · rw [layer?_of_ends ha.ends .nil, merge_nil_right]
  · rw [layer?_of_ends (ha.ends.merge hb.ends) hb.ends, merge_again ha.wellKeyed hb]

/-- Texts meet mappings in these layers, yet not in a way that makes grouping matter. -/
theorem regrouped_where_texts_meet_mappings :
    let a : Mapping := [(.str "k", .map [(.str "x", .str "1"), (.str "y", .str "2")])]
    let b : Mapping := [(.str "k", .map [(.str "y", .str "3")]), (.str "l", .str "4")]
    let c : Mapping :=
      [(.str "k", .map [(.str "y", .map [(.str "z", .str "5")])]), (.str "l", .map [])]
    a.Nested ∧ b.Nested ∧ c.Nested ∧ ¬Value.Collide (.map a) (.map b) (.map c) ∧
      ∃ merged, (layer? a b).bind (layer? · c) = some merged ∧
        (layer? b c).bind (layer? a) = some merged := by
  intro a b c
  have hleaf (text : String) : (Value.str text).Nested := .other rfl nofun
  have hempty : (Value.map []).Nested := .mapping List.Pairwise.nil nofun
  have hdeep : (Value.map [(.str "z", .str "5")]).Nested := .mapping (by decide) (by simp [hleaf])
  have hak : (Value.map [(.str "x", .str "1"), (.str "y", .str "2")]).Nested :=
    .mapping (by decide) (by simp [hleaf])
  have hbk : (Value.map [(.str "y", .str "3")]).Nested := .mapping (by decide) (by simp [hleaf])
  have hck : (Value.map [(.str "y", .map [(.str "z", .str "5")])]).Nested :=
    .mapping (by decide) (by simp [hdeep])
  have ha : a.Nested := ⟨by decide, by simp [a, hak]⟩
  have hb : b.Nested := ⟨by decide, by simp [b, hleaf, hbk]⟩
  have hc : c.Nested := ⟨by decide, by simp [c, hck, hempty]⟩
  have hnone : ¬Value.Collide (.map a) (.map b) (.map c) := by
    rw [Value.collide_iff]
    rintro (⟨-, hb, -⟩ | ⟨key, x, y, z, hx, hy, -, h⟩)
    · cases hb
    rw [Value.part?_of_entries? rfl, get?_cons] at hx
    split at hx
    · next hkey =>
      -- the lowest layer has texts alone where the middle one has a mapping
      obtain rfl := Option.some.inj hx
      rw [Value.part?_of_entries? rfl, ← get?_congr hkey] at hy
      obtain rfl := Option.some.inj hy
      rw [Value.collide_iff] at h
      rcases h with ⟨-, hy, -⟩ | ⟨key, x, y, z, hx, -, -, h⟩
      · cases hy
      rw [Value.part?_of_entries? rfl] at hx
      have htexts : ∀ entry ∈ [(Scalar.str "x", Value.str "1"), (.str "y", .str "2")],
          entry.2.entries? = none := by simp [Value.entries?]
      have hx : x.entries? = none := of_get? (P := (Value.entries? · = none)) htexts hx
      exact Value.not_collide_of_entries?_none hx y z h
    · cases hx
  exact ⟨ha, hb, hc, hnone, (layer?_regrouped ha hb hc).1 hnone⟩

/-- Across a text the mapping of the lowest layer comes back when the upper two are merged first. -/
example :
    let a : Mapping := [(.str "k", .map [(.str "x", .str "1")])]
    let b : Mapping := [(.str "k", .str "2")]
    let c : Mapping := [(.str "k", .map [(.str "y", .str "3")])]
    merge (merge a b) c = c ∧
      merge a (merge b c) = [(.str "k", .map [(.str "x", .str "1"), (.str "y", .str "3")])] :=
  ⟨rfl, rfl⟩

end Mapping

end QueryTemplates
