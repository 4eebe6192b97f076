import QueryTemplates.Proofs.DataOptions.Reading
import QueryTemplates.Proofs.Outcome
import QueryTemplates.Proofs.Value.Path

/-!
# What options give

Every option lays one text at its path over the data of the options before it. So the data is made
of finite mappings without repeated keys, and the text of an option is found at its path unless a
later option is about the same place: its path is the same, leads on from it, or stops on the way
to it. No other texts are found in the data.

About `SPEC_FULL.md` §13 (lines 213–215).
-/

namespace QueryTemplates

open Mapping

namespace Assignment

variable {assignment : Assignment}

theorem map_toMapping (h : assignment.path ≠ []) :
    Value.map assignment.toMapping = nest (.str assignment.value) assignment.path := by
  rw [toMapping]
  match hpath : assignment.path with
  | [] => exact absurd hpath h
  | key :: rest => rfl

/-- An assignment repeats no key. -/
theorem wellKeyed_toMapping (assignment : Assignment) : assignment.toMapping.WellKeyed := by
  by_cases h : assignment.path = []
  · rw [toMapping, h]
    exact .nil
  · refine WellKeyed.of_entries? (v := .map assignment.toMapping) ?_ rfl
    rw [map_toMapping h]
    exact wellKeyed_nest (.other rfl) _

/-- An assignment holds no loop. -/
theorem ends_toMapping (assignment : Assignment) : assignment.toMapping.Ends := by
  by_cases h : assignment.path = []
  · rw [toMapping, h]
    exact .nil
  · refine Value.Ends.of_entries? (v := .map assignment.toMapping) ?_ rfl
    have hvalue : (Value.str assignment.value).Ends := .other rfl nofun
    rw [map_toMapping h]
    exact ends_nest hvalue _

end Assignment

variable {option : String} {data : Mapping} {before behind : List String}

/-- The data with one more option. -/
def withOption (data : Mapping) (option : String) : Except OptionError Mapping := do
  return Mapping.merge data (← Assignment.parse option).toMapping

/-- Options are laid over one another in their order. -/
theorem dataOfOptions_eq_foldlM (options : List String) :
    dataOfOptions options = options.foldlM withOption [] := rfl

/-- An option that can be read is laid over the data so far. -/
theorem withOption_eq_ok_iff {data' : Mapping} :
    withOption data option = .ok data' ↔
      ∃ assignment, Assignment.parse option = .ok assignment ∧
        data' = merge data assignment.toMapping := by
  rw [withOption, bind_eq_ok_iff]
  simp only [pure, Except.pure, Except.ok.injEq, eq_comm]

/-- Options give mappings that end and repeat no key. -/
theorem wellKeyed_and_ends_of_dataOfOptions {options : List String}
    (h : dataOfOptions options = .ok data) : data.WellKeyed ∧ data.Ends := by
  refine foldlM_preserves (motive := fun m => WellKeyed m ∧ Ends m) ?_ ⟨.nil, .nil⟩ h
  rintro option - m m' ⟨hkeyed, hends⟩ hstep
  obtain ⟨a, -, rfl⟩ := withOption_eq_ok_iff.mp hstep
  exact ⟨hkeyed.merge a.wellKeyed_toMapping, hends.merge a.ends_toMapping⟩

/-! ### The last option about a place -/

/-- None of the options is about the place: no path is where the other begins. -/
def LeaveAlone (options : List String) (path : List String) : Prop :=
  ∀ option ∈ options, ∀ a : Assignment, a.IsReadFrom option → Apart a.path path

/-- Some option gives the text to the path, and no later one is about the place. -/
def LastWrite (options : List String) (path : List String) (text : String) : Prop :=
  ∃ before option behind, options = before ++ option :: behind ∧
    Assignment.IsReadFrom ⟨path, text⟩ option ∧ LeaveAlone behind path

section

variable {options path : List String} {text : String} {assignment : Assignment}

theorem leaveAlone_cons_iff (h : assignment.IsReadFrom option) :
    LeaveAlone (option :: options) path ↔ Apart assignment.path path ∧ LeaveAlone options path := by
  have hread : (∀ a : Assignment, a.IsReadFrom option → Apart a.path path)
      ↔ Apart assignment.path path := by
    refine ⟨fun hall => hall assignment h, fun hapart a ha => ?_⟩
    rwa [ha.unique h]
  rw [LeaveAlone, List.forall_mem_cons, hread]
  rfl

theorem lastWrite_cons_iff (h : assignment.IsReadFrom option) :
    LastWrite (option :: options) path text ↔
      (assignment = ⟨path, text⟩ ∧ LeaveAlone options path) ∨ LastWrite options path text := by
  constructor
  · rintro ⟨before, other, behind, hoptions, hother, hbehind⟩
    cases before with
    | nil =>
      obtain ⟨rfl, rfl⟩ := List.cons.inj hoptions
      exact .inl ⟨h.unique hother, hbehind⟩
    | cons first before =>
      obtain ⟨-, rfl⟩ := List.cons.inj hoptions
      exact .inr ⟨before, other, behind, rfl, hother, hbehind⟩
  · rintro (⟨rfl, hrest⟩ | ⟨before, other, behind, rfl, hother, hbehind⟩)
    · exact ⟨[], option, options, rfl, h, hrest⟩
    · exact ⟨option :: before, other, behind, rfl, hother, hbehind⟩

/-- With one more option the data has its text at its path, and what it had at paths apart from
it. -/
theorem find?_merge_toMapping_iff (h : assignment.path ≠ []) (data : Mapping) :
    (Value.map (merge data assignment.toMapping)).find? path = some (.str text) ↔
      assignment = ⟨path, text⟩ ∨
        (Apart assignment.path path ∧ (Value.map data).find? path = some (.str text)) := by
  rw [← mergeValue_map_map, Assignment.map_toMapping h,
    Assignment.find?_mergeValue_nest_iff rfl rfl, Assignment.mk.injEq]
  simp [eq_comm]

/-- The texts in the data are those that were written last, and those that were there before and
were left alone. -/
theorem find?_foldlM_iff {data' : Mapping} (h : options.foldlM withOption data = .ok data') :
    (Value.map data').find? path = some (.str text) ↔
      LastWrite options path text ∨
        (LeaveAlone options path ∧ (Value.map data).find? path = some (.str text)) := by
  induction options generalizing data with
  | nil =>
    obtain rfl := Except.ok.inj h
    simp [LastWrite, LeaveAlone]
  | cons option options ih =>
    rw [List.foldlM_cons, bind_eq_ok_iff] at h
    obtain ⟨next, hnext, h⟩ := h
    obtain ⟨a, ha, rfl⟩ := withOption_eq_ok_iff.mp hnext
    have hpath := Assignment.path_ne_nil ha
    rw [Assignment.parse_eq_ok_iff] at ha
    rw [ih h, find?_merge_toMapping_iff hpath, lastWrite_cons_iff ha, leaveAlone_cons_iff ha]
    -- a later option decides, then this one, then the data below
    tauto

/-- The texts in the data of options are those that were written last. -/
theorem find?_dataOfOptions_iff (h : dataOfOptions options = .ok data) :
    (Value.map data).find? path = some (.str text) ↔ LastWrite options path text := by
  have hempty : (Value.map []).find? path ≠ some (.str text) := by
    cases path with
    | nil => exact nofun
    | cons key rest => exact nofun
  rw [find?_foldlM_iff h]
  simp [hempty]

end

/-- The text of an option is found at its path, if all later options are about other places. -/
theorem find?_dataOfOptions {assignment : Assignment}
    (h : dataOfOptions (before ++ option :: behind) = .ok data)
    (hoption : Assignment.parse option = .ok assignment)
    (hbehind : ∀ other ∈ behind, ∀ a, Assignment.parse other = .ok a →
      Apart a.path assignment.path) :
    (Value.map data).find? assignment.path = some (.str assignment.value) := by
  rw [Assignment.parse_eq_ok_iff] at hoption
  simp only [Assignment.parse_eq_ok_iff] at hbehind
  exact (find?_dataOfOptions_iff h).mpr ⟨before, option, behind, rfl, hoption, hbehind⟩

end QueryTemplates
