import QueryTemplates.Proofs.Value.Layering

/-!
# Merging that ends

Laying a loop over a loop leads on and on. Mappings without loops are finite trees: laying one over
another comes to an end, and the result is a finite tree again.

About `SPEC_FULL.md` §10.3 (lines 174–178).
-/

namespace QueryTemplates

/-- The value ends, and so does everything that is reached from it by keys. -/
inductive Value.Ends : Value → Prop
  | mapping {v : Value} {m : Mapping} (hentries : v.entries? = some m)
    (hvalues : ∀ entry ∈ m, Ends entry.2) : Ends v
  | other {v : Value} (hentries : v.entries? = none) (hends : v.bare ≠ .endless) : Ends v

/-- Everything that is reached in the mapping by keys ends. -/
def Mapping.Ends (m : Mapping) : Prop := ∀ entry ∈ m, entry.2.Ends

/-- The entries of a value without loops have none. -/
theorem Value.Ends.of_entries? {v : Value} {m : Mapping} (h : v.Ends)
    (hv : v.entries? = some m) : m.Ends := by
  cases h with
  | mapping hentries hvalues =>
    rw [hentries] at hv
    obtain rfl := Option.some.inj hv
    exact hvalues
  | other hentries =>
    rw [hentries] at hv
    cases hv

theorem Value.Ends.bare_ne_endless {v : Value} (h : v.Ends) : v.bare ≠ .endless := by
  cases h with
  | mapping hentries hvalues =>
    rw [entries?_eq_some_iff.mp hentries]
    exact nofun
  | other hentries hends => exact hends

namespace Mapping

variable {base override m : Mapping} {before : Option Value} {v : Value} {key : Scalar}

theorem Ends.nil : Ends [] := nofun

/-- What stands at a key has no loops either. -/
theorem Ends.get? (h : m.Ends) (hget : Mapping.get? m key = some v) : v.Ends := of_get? h hget

/-- Merging makes no loops. -/
theorem Ends.merge (hbase : base.Ends) (hover : override.Ends) :
    (Mapping.merge base override).Ends :=
  forall_mem_merge Value.Ends.of_entries? (fun _ _ hv hvalues => .mapping hv hvalues) hbase hover

/-- A mapping comes to an end over a value if it does over the mapping that is there. -/
theorem mergeValueEnds_of_entries? (hv : v.entries? = some m)
    (hbefore : ∀ w, before = some w → w.bare ≠ .endless)
    (hends : ∀ w old, before = some w → w.entries? = some old → mergeEnds old m = true) :
    mergeValueEnds before v = true := by
  refine Value.induct_of_entries? ?_ ?_ hv
  · rw [mergeValueEnds]
    cases before with
    | none => rfl
    | some w =>
      rw [Option.map_some]
      cases hbare : w.bare with
      | map old => exact hends w old rfl (Value.entries?_eq_some_iff.mpr hbare)
      | endless => exact absurd hbare (hbefore w rfl)
      | _ => rfl
  · intro mark content _ ih
    rwa [mergeValueEnds]

/-- A value that is no mapping is taken as it is, and that ends. -/
theorem mergeValueEnds_of_entries?_none (hv : v.entries? = none) (hends : v.bare ≠ .endless)
    (before : Option Value) : mergeValueEnds before v = true := by
  induction v using Value.bare.induct with
  | case1 mark content ih =>
    rw [mergeValueEnds]
    exact ih hv hends
  | case2 v hloop =>
    cases v with
    | map entries => cases hv
    | loop mark content => exact absurd rfl (hloop mark content)
    | endless => exact absurd rfl hends
    | _ =>
      rw [mergeValueEnds]
      all_goals
        intros
        contradiction

theorem mergeEnds_of_ends {base override : Mapping} (hbase : base.Ends)
    (hover : override.Ends) : mergeEnds base override = true := by
  match override with
  | [] => rw [mergeEnds]
  | (key, v) :: rest =>
    obtain ⟨hv, hrest⟩ := List.forall_mem_cons.mp hover
    rw [mergeEnds, mergeEnds_of_ends hbase hrest, Bool.and_true]
    cases hentries : v.entries? with
    | none => exact mergeValueEnds_of_entries?_none hentries hv.bare_ne_endless _
    | some m =>
      refine mergeValueEnds_of_entries? hentries
        (fun w hw => (hbase.get? hw).bare_ne_endless) fun w old hw hold => ?_
      have hsize := Value.sizeOf_entries? hentries
      exact mergeEnds_of_ends ((hbase.get? hw).of_entries? hold) (hv.of_entries? hentries)
termination_by sizeOf override

/-- Laying mappings that end over one another comes to an end. -/
theorem layer?_of_ends (hbase : base.Ends) (hover : override.Ends) :
    layer? base override = some (merge base override) := by
  rw [layer?, if_pos (mergeEnds_of_ends hbase hover)]

end Mapping

end QueryTemplates
