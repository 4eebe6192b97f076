import QueryTemplates.Config.Basic
import QueryTemplates.Proofs.Outcome

/-!
# Names in a configuration

No two templates of a configuration that was read have one name, so at most one of them is selected
by a name. Templates without a name do not count.

About `SPEC_FULL.md` §10.3 (lines 169–173).
-/

namespace QueryTemplates

namespace Config

/-- No name comes twice; what has no name is not counted. -/
def NamesDiffer (names : List (Option String)) : Prop :=
  names.Pairwise fun a b => a = none ∨ a ≠ b

variable {names : List (Option String)} {templates : List Template}

theorem firstRepeated?_eq_none_iff {seen : List String} :
    firstRepeated? seen names = none ↔
      NamesDiffer names ∧ ∀ name ∈ seen, some name ∉ names := by
  induction names generalizing seen with
  | nil => simp [firstRepeated?, NamesDiffer]
  | cons first rest ih =>
    rw [NamesDiffer, List.pairwise_cons, ← NamesDiffer]
    cases first with
    | none =>
      rw [firstRepeated?, ih]
      simp
    | some name =>
      rw [firstRepeated?]
      by_cases hseen : name ∈ seen
      · have hcontains : seen.contains name = true := by simpa using hseen
        rw [if_pos hcontains]
        constructor
        · intro h
          cases h
        · rintro ⟨-, hfresh⟩
          exact absurd List.mem_cons_self (hfresh name hseen)
      · have hcontains : ¬seen.contains name = true := by simpa using hseen
        rw [if_neg hcontains, ih, List.forall_mem_cons]
        constructor
        · rintro ⟨hrest, hname, hfresh⟩
          refine ⟨⟨fun other hother => .inr ?_, hrest⟩, fun other hother => ?_⟩
          · rintro rfl
            exact hname hother
          · rw [List.mem_cons, not_or]
            refine ⟨?_, hfresh other hother⟩
            rintro ⟨rfl⟩
            exact hseen hother
        · rintro ⟨⟨hname, hrest⟩, hfresh⟩
          refine ⟨hrest, fun hmem => ?_, fun other hother => ?_⟩
          · rcases hname _ hmem with h | h
            · cases h
            · exact h rfl
          · exact fun hmem => hfresh other hother (List.mem_cons_of_mem _ hmem)

/-- Templates pass exactly when there are some and their names differ. -/
theorem checkTemplates_eq_ok_iff :
    checkTemplates templates = .ok () ↔
      templates ≠ [] ∧ NamesDiffer (templates.map Template.name) := by
  rw [checkTemplates]
  cases templates with
  | nil => simp
  | cons first rest =>
    rw [if_neg (by simp)]
    cases h : firstRepeated? [] ((first :: rest).map Template.name) with
    | none =>
      have hdiffer := (firstRepeated?_eq_none_iff.mp h).1
      simpa using hdiffer
    | some name =>
      have hsame : ¬NamesDiffer ((first :: rest).map Template.name) := by
        intro hdiffer
        rw [firstRepeated?_eq_none_iff.mpr ⟨hdiffer, by simp⟩] at h
        cases h
      exact ⟨nofun, fun h => absurd h.2 hsame⟩

/-- The templates of a configuration that was read have passed their check. -/
theorem namesDiffer_of_parse {raw : Value} {config : Config}
    (h : Config.parse raw = .ok config) :
    NamesDiffer (config.templates.map Template.name) := by
  obtain ⟨parts, -, h⟩ := bind_eq_ok_iff.mp h
  obtain ⟨_, -, h⟩ := bind_eq_ok_iff.mp h
  obtain ⟨_, hcheck, h⟩ := bind_eq_ok_iff.mp h
  obtain rfl := Except.ok.inj h
  exact (checkTemplates_eq_ok_iff.mp hcheck).2

/-- A name that does not come twice selects what has it. -/
theorem filter_name_eq {α : Type} {nameOf : α → Option String} {xs : List α}
    (hdiffer : NamesDiffer (xs.map nameOf)) {x : α} (hmem : x ∈ xs) {name : String}
    (hname : nameOf x = some name) : xs.filter (nameOf · == some name) = [x] := by
  induction xs with
  | nil => cases hmem
  | cons first rest ih =>
    rw [NamesDiffer, List.map_cons, List.pairwise_cons, List.forall_mem_map] at hdiffer
    obtain ⟨hfirst, hrest⟩ := hdiffer
    rcases List.mem_cons.mp hmem with rfl | hmem
    · have hothers : rest.filter (nameOf · == some name) = [] := by
        rw [List.filter_eq_nil_iff]
        intro other hother hsame
        have hsame : nameOf other = some name := by simpa using hsame
        rcases hfirst other hother with h | h
        · rw [hname] at h
          cases h
        · exact h (hname.trans hsame.symm)
      rw [List.filter_cons, if_pos (by simp [hname]), hothers]
    · have hother : ¬(nameOf first == some name) = true := by
        intro hsame
        have hsame : nameOf first = some name := by simpa using hsame
        rcases hfirst x hmem with h | h
        · rw [hsame] at h
          cases h
        · exact h (hsame.trans hname.symm)
      rw [List.filter_cons, if_neg hother, ih hrest hmem]

end Config

end QueryTemplates
