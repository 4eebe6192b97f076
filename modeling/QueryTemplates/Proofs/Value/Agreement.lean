import QueryTemplates.Proofs.Value.Layering

/-!
# Mappings that agree

Two mappings agree when the same keys are present in both and what is found at a key agrees in
turn; the order of the entries does not matter. Merging twice agrees with merging once: a layer
that was laid over a lower one and under an upper one changes nothing when it is put below the
result again, even where mappings and other values meet at one key.

About `SPEC_FULL.md` §10.3 (lines 174–178).
-/

namespace QueryTemplates

/-- No key comes twice in the value, or in any mapping that is reached from it by keys. -/
inductive Value.WellKeyed : Value → Prop
  | mapping {v : Value} {m : Mapping} (hentries : v.entries? = some m) (hdistinct : m.Distinct)
    (hvalues : ∀ entry ∈ m, WellKeyed entry.2) : WellKeyed v
  | other {v : Value} (hentries : v.entries? = none) : WellKeyed v

/-- No key comes twice in the mapping, or in any that is reached from it by keys. -/
structure Mapping.WellKeyed (m : Mapping) : Prop where
  distinct : m.Distinct
  values : ∀ entry ∈ m, entry.2.WellKeyed

/-- The values are the same, or are mappings with agreeing values at the same keys. -/
inductive Value.Agree : Value → Value → Prop
  | same (v : Value) : Agree v v
  | mappings {v w : Value} {m n : Mapping} (hv : v.entries? = some m) (hw : w.entries? = some n)
    (hkeys : ∀ key, Mapping.get? m key = none ↔ Mapping.get? n key = none)
    (hvalues : ∀ key a b, Mapping.get? m key = some a → Mapping.get? n key = some b → Agree a b) :
    Agree v w

/-- The mappings have agreeing values at the same keys, in whatever order. -/
structure Mapping.Agree (m n : Mapping) : Prop where
  keys : ∀ key, get? m key = none ↔ get? n key = none
  values : ∀ key a b, get? m key = some a → get? n key = some b → a.Agree b

theorem Mapping.Agree.value {m n : Mapping} (h : m.Agree n) {v w : Value}
    (hv : v.entries? = some m) (hw : w.entries? = some n) : v.Agree w :=
  .mappings hv hw h.keys h.values

namespace Mapping

variable {m c t d : Mapping} {v x z : Value} {key : Scalar}

theorem WellKeyed.nil : WellKeyed [] := ⟨List.Pairwise.nil, nofun⟩

theorem WellKeyed.of_entries? (h : v.WellKeyed) (hv : v.entries? = some m) : m.WellKeyed := by
  cases h with
  | mapping hentries hdistinct hvalues =>
    rw [hentries] at hv
    obtain rfl := Option.some.inj hv
    exact ⟨hdistinct, hvalues⟩
  | other hentries =>
    rw [hentries] at hv
    cases hv

/-- So is what stands at a key. -/
theorem WellKeyed.get? (h : m.WellKeyed) (hget : Mapping.get? m key = some v) : v.WellKeyed :=
  of_get? h.values hget

/-- Merging repeats no key. -/
theorem WellKeyed.merge (hc : c.WellKeyed) (ht : t.WellKeyed) : (Mapping.merge c t).WellKeyed := by
  refine ⟨hc.distinct.merge t, forall_mem_merge (fun hv hm => (WellKeyed.of_entries? hv hm).values)
    (fun {w v old m} hw hold hv hvalues => ?_) hc.values ht.values⟩
  exact .mapping hv ((WellKeyed.of_entries? hw hold).distinct.merge m) hvalues

/-- The mapping that a layer has at a key: empty where it has none. -/
theorem exists_ofValue? (hc : c.WellKeyed) (key : Scalar) :
    ofValue? (Mapping.get? c key) = none ∨
      ∃ old, ofValue? (Mapping.get? c key) = some old ∧ old.WellKeyed := by
  cases hget : Mapping.get? c key with
  | none => exact .inl rfl
  | some w =>
    cases hw : w.entries? with
    | none => exact .inl hw
    | some old => exact .inr ⟨old, hw, .of_entries? (hc.get? hget) hw⟩

/-- A mapping in the upper layer is merged with what the lower layer has at its key. -/
theorem exists_merge_of_lower (hc : c.WellKeyed) (hx : x.WellKeyed) (hentries : x.entries? = some m)
    (key : Scalar) :
    ∃ old, old.WellKeyed ∧
      (mergeValue (Mapping.get? c key) x).entries? = some (merge old m) := by
  rcases exists_ofValue? hc key with hnone | ⟨old, hold, hkeyed⟩
  · refine ⟨[], .nil, ?_⟩
    rw [mergeValue_of_ofValue?_none hnone, hentries,
      merge_nil_left (WellKeyed.of_entries? hx hentries).distinct]
  · exact ⟨old, hkeyed, entries?_mergeValue hold hentries⟩

/-- What is found where the middle one of three layers has a mapping: no mapping, or the layers
there over one another. -/
theorem entries?_of_middle (hc : c.WellKeyed) (ht : t.WellKeyed) (hd : d.WellKeyed)
    (hget : Mapping.get? t key = some x) (hx : x.entries? = some m)
    (hv : Mapping.get? (merge (merge c t) d) key = some v) :
    v.entries? = none ∨ ∃ lower upper : Mapping, lower.WellKeyed ∧ upper.WellKeyed ∧
      v.entries? = some (merge (merge lower m) upper) := by
  obtain ⟨lower, hlower, hentries⟩ := exists_merge_of_lower hc (ht.get? hget) hx key
  rw [get?_merge hd.distinct, get?_merge ht.distinct, hget] at hv
  cases hgetd : Mapping.get? d key with
  | none =>
    rw [hgetd] at hv
    obtain rfl := Option.some.inj hv
    exact .inr ⟨lower, [], hlower, .nil, by rw [merge_nil_right, hentries]⟩
  | some y =>
    rw [hgetd] at hv
    obtain rfl := Option.some.inj hv
    cases hy : y.entries? with
    | none => exact .inl (by rw [mergeValue_of_entries?_none hy, hy])
    | some upper =>
      have hupper : WellKeyed upper := .of_entries? (hd.get? hgetd) hy
      exact .inr ⟨lower, upper, hlower, hupper, entries?_mergeValue hentries hy⟩

end Mapping

open Mapping in
/-- Layers are laid over one another from `c`, the lowest, to `d`, the uppermost. What the middle
one `t` has is then in the result already, so that laying the result over `t` changes nothing. -/
theorem agree_merge_again {c t d : Mapping} (hc : c.WellKeyed) (ht : t.WellKeyed)
    (hd : d.WellKeyed) : Mapping.Agree (merge t (merge (merge c t) d)) (merge (merge c t) d) := by
  have hmerged : (merge (merge c t) d).Distinct := (hc.distinct.merge t).merge d
  refine ⟨fun key => ?_, fun key a b ha hb => ?_⟩
  · -- every key of `t` is a key of the result
    rw [get?_merge hmerged, get?_merge hd.distinct, get?_merge ht.distinct]
    cases get? d key <;> cases get? t key <;> cases get? c key <;> simp
  rw [get?_merge hmerged, hb] at ha
  obtain rfl := Option.some.inj ha
  cases hget : get? t key with
  | none =>
    rw [mergeValue_none]
    exact .same b
  | some x =>
    cases hx : x.entries? with
    | none =>
      have hbefore : ofValue? (some x) = none := hx
      rw [mergeValue_of_ofValue?_none hbefore]
      exact .same b
    | some middle =>
      rcases entries?_of_middle hc ht hd hget hx hb with hnone | ⟨lower, upper, hlower, hupper, hm⟩
      · rw [mergeValue_of_entries?_none hnone]
        exact .same b
      · have hbefore : ofValue? (some x) = some middle := hx
        have hmiddle : WellKeyed middle := .of_entries? (ht.get? hget) hx
        have hsize : sizeOf middle < sizeOf t :=
          Nat.lt_trans (Value.sizeOf_entries? hx) (sizeOf_get? hget)
        exact (agree_merge_again hlower hmiddle hupper).value (entries?_mergeValue hbefore hm) hm
termination_by sizeOf t

end QueryTemplates
