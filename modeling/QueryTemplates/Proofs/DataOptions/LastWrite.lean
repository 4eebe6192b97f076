import QueryTemplates.Proofs.DataOptions

/-!
# The last option wins

Options either give data or are refused, and which of the two is seen from each option by itself:
the refusal names the first one that cannot be read. The data is a tree with texts for leaves, where
every mapping but the whole has entries, and it is told by the paths that lead to its texts: each
comes from the last option that is about the place.

About `SPEC_FULL.md` §10.3 (lines 174–178) and §13 (lines 213–215).
-/

namespace QueryTemplates

open Mapping

/-- A text, or a mapping that is not empty, from texts to such values. -/
inductive Value.IsTextTree : Value → Prop
  | text (content : String) : IsTextTree (.str content)
  | mapping {m : Mapping} (hfull : m ≠ []) (hkeys : ∀ key ∈ m.keys, ∃ text, key = .str text)
    (hvalues : ∀ entry ∈ m, IsTextTree entry.2) : IsTextTree (.map m)

/-- All keys of the mapping are texts, and all values are trees of texts. -/
structure Mapping.HoldsTexts (m : Mapping) : Prop where
  keys : ∀ key ∈ m.keys, ∃ text, key = .str text
  values : ∀ entry ∈ m, entry.2.IsTextTree

namespace Mapping

variable {m : Mapping} {v : Value} {key : String}

theorem set_ne_nil (m : Mapping) (key : Scalar) (v : Value) : set m key v ≠ [] := by
  cases m with
  | nil => exact List.cons_ne_nil _ _
  | cons entry rest =>
    obtain ⟨k, w⟩ := entry
    rw [set_cons]
    split <;> exact List.cons_ne_nil _ _

/-- Without options there is nothing but texts. -/
theorem HoldsTexts.nil : HoldsTexts [] := ⟨nofun, nofun⟩

/-- What stands at a key is a tree of texts. -/
theorem HoldsTexts.get? (hm : m.HoldsTexts) (key : Scalar) :
    ∀ w, Mapping.get? m key = some w → w.IsTextTree := fun _ hget => of_get? hm.values hget

/-- Setting a key to a tree of texts leaves trees of texts. -/
theorem HoldsTexts.set (hm : m.HoldsTexts) (hv : v.IsTextTree) (key : String) :
    (Mapping.set m (.str key) v).HoldsTexts := by
  refine ⟨?_, forall_mem_set hm.values hv _⟩
  rw [keys_set]
  split
  · exact hm.keys
  · exact List.forall_mem_append.mpr ⟨hm.keys, by simp⟩

theorem HoldsTexts.isTextTree (hm : m.HoldsTexts) (hfull : m ≠ []) : (Value.map m).IsTextTree :=
  .mapping hfull hm.keys hm.values

/-- The entries of a tree of texts are trees of texts. -/
theorem HoldsTexts.of_entries? (hv : v.IsTextTree) (hm : v.entries? = some m) : m.HoldsTexts := by
  cases hv with
  | text content => cases hm
  | mapping hfull hkeys hvalues =>
    obtain rfl := Option.some.inj hm
    exact ⟨hkeys, hvalues⟩

end Mapping

namespace Assignment

/-- A text that is laid at a path over a tree of texts leaves one. -/
theorem isTextTree_mergeValue_nest (text : String) (path : List String) {before : Option Value}
    (hbefore : ∀ w, before = some w → w.IsTextTree) :
    (mergeValue before (nest (.str text) path)).IsTextTree := by
  induction path generalizing before with
  | nil =>
    have hleaf : (Value.str text).entries? = none := rfl
    rw [nest, mergeValue_of_entries?_none hleaf]
    exact .text text
  | cons key path ih =>
    have hold : HoldsTexts ((ofValue? before).getD []) := by
      cases hold : ofValue? before with
      | none => exact .nil
      | some old =>
        obtain ⟨w, hw, hentries⟩ := Option.bind_eq_some_iff.mp hold
        exact .of_entries? (hbefore w hw) hentries
    rw [nest, mergeValue_map (.singleton _ _), merge_cons, merge_nil_right]
    have hpart := ih (hold.get? (.str key))
    exact (hold.set hpart key).isTextTree (set_ne_nil _ _ _)

theorem holdsTexts_merge_toMapping {data : Mapping} (h : data.HoldsTexts)
    (assignment : Assignment) : (merge data assignment.toMapping).HoldsTexts := by
  match hpath : assignment.path with
  | [] => rwa [toMapping, hpath, nest, merge_nil_right]
  | key :: path =>
    have hpart := isTextTree_mergeValue_nest assignment.value path (h.get? (.str key))
    rw [toMapping, hpath, nest, merge_cons, merge_nil_right]
    exact h.set hpart key

end Assignment

variable {options : List String} {data : Mapping} {e : OptionError}

/-- Whatever the options are, their data consists of texts and mappings. -/
theorem holdsTexts_of_dataOfOptions (h : dataOfOptions options = .ok data) : data.HoldsTexts := by
  refine foldlM_preserves (motive := HoldsTexts) (fun option _ m m' hm hstep => ?_) .nil h
  obtain ⟨a, -, rfl⟩ := withOption_eq_ok_iff.mp hstep
  exact Assignment.holdsTexts_merge_toMapping hm a

/-- An option is refused exactly when it cannot be read, and then it is named. -/
theorem withOption_eq_error_iff (data : Mapping) (option : String) (e : OptionError) :
    withOption data option = .error e ↔ e = ⟨option⟩ ∧ Assignment.Unreadable option := by
  rw [withOption, bind_eq_error_iff, ← Assignment.parse_eq_error_iff]
  simp [pure, Except.pure]

theorem not_unreadable_of_dataOfOptions (h : dataOfOptions options = .ok data) :
    ∀ option ∈ options, ¬Assignment.Unreadable option := by
  intro option hoption hunreadable
  obtain ⟨lower, next, hstep⟩ := exists_of_mem_of_foldlM h hoption
  obtain ⟨a, ha, -⟩ := withOption_eq_ok_iff.mp hstep
  exact Assignment.unreadable_iff.mp hunreadable a ha

/-- Options are refused with the first one that cannot be read. -/
theorem dataOfOptions_eq_error_iff :
    dataOfOptions options = .error e ↔
      ∃ before behind, options = before ++ e.option :: behind ∧
        (∀ option ∈ before, ¬Assignment.Unreadable option) ∧ Assignment.Unreadable e.option := by
  rw [dataOfOptions_eq_foldlM, foldlM_eq_error_iff withOption_eq_error_iff]
  constructor
  · rintro ⟨before, option, behind, rfl, hbefore, rfl, hoption⟩
    exact ⟨before, behind, rfl, fun other hother h => hbefore other hother _ ⟨rfl, h⟩, hoption⟩
  · rintro ⟨before, behind, hoptions, hbefore, hoption⟩
    exact ⟨before, e.option, behind, hoptions, fun other hother _ h => hbefore other hother h.2,
      rfl, hoption⟩

/-- Options are refused exactly when some option has no equals sign or no path, and the refusal
names the first such option. All other options give a tree of texts, in which the last write wins:
a path leads to a text exactly when some option gives the text to the path, and no later option is
about the same place. -/
theorem dataOfOptions_lastWrite (options : List String) :
    match dataOfOptions options with
    | .error e => ∃ before behind, options = before ++ e.option :: behind ∧
        (∀ option ∈ before, ¬Assignment.Unreadable option) ∧ Assignment.Unreadable e.option
    | .ok data => (∀ option ∈ options, ¬Assignment.Unreadable option) ∧ data.HoldsTexts ∧
        ∀ path text, (Value.map data).find? path = some (.str text) ↔
          LastWrite options path text := by
  cases h : dataOfOptions options with
  | error e => exact dataOfOptions_eq_error_iff.mp h
  | ok data =>
    exact ⟨not_unreadable_of_dataOfOptions h, holdsTexts_of_dataOfOptions h,
      fun path text => find?_dataOfOptions_iff h⟩

end QueryTemplates
