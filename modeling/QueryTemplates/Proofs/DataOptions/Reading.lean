import Mathlib.Data.List.TakeWhile
import QueryTemplates.DataOptions
import QueryTemplates.Proofs.Text.Identifier

/-!
# How an option is read

The first equals sign of an option parts its key from its text. What stands between the points of
the key is the path of the text, without the blanks at the ends of the key and without the parts
where nothing stands. An option is refused when it has no equals sign or no path.

About `SPEC_FULL.md` §13 (lines 213–215).
-/

namespace QueryTemplates

/-- Splitting at a separator is that of lists. -/
theorem splitAtChar_eq_splitOn (separator : Char) (cs : List Char) :
    splitAtChar separator cs = cs.splitOn separator := by
  induction cs with
  | nil => rfl
  | cons c rest ih =>
    rw [List.splitOn_eq_splitOnP, List.splitOnP_cons_eq_if_modifyHead, ← List.splitOn_eq_splitOnP,
      ← ih, splitAtChar]
    simp only [beq_iff_eq]
    split
    · rfl
    · cases hparts : splitAtChar separator rest with
      | nil => exact absurd hparts (splitAtChar_ne_nil separator rest)
      | cons part parts => rfl

/-- The parts of a key between its points: those that are not empty. Blanks around the key do not
count. -/
def keyParts (key : String) : List String :=
  (((stripBlank key.toList).splitOn '.').filter (· ≠ [])).map String.ofList

namespace Assignment

variable {option key : String} {assignment : Assignment} {e : OptionError}

/-- The option is a key, the first equals sign, and the text of the assignment, and the parts of the
key are its path. -/
def IsReadFrom (assignment : Assignment) (option : String) : Prop :=
  ∃ key : String, option = key ++ "=" ++ assignment.value ∧ '=' ∉ key.toList ∧
    assignment.path = keyParts key ∧ assignment.path ≠ []

/-- The option has no equals sign, or there is no path in front of the first one. -/
def Unreadable (option : String) : Prop :=
  '=' ∉ option.toList ∨
    ∃ key value : String, option = key ++ "=" ++ value ∧ '=' ∉ key.toList ∧ keyParts key = []

theorem pathOf_toList (key : String) : pathOf key.toList = keyParts key := by
  rw [pathOf, keyParts, splitAtChar_eq_splitOn]
  congr 2
  funext part
  cases part <;> rfl

theorem toList_append_equals (key value : String) :
    (key ++ "=" ++ value).toList = key.toList ++ '=' :: value.toList := by
  simp

theorem parse_of_notMem (h : '=' ∉ option.toList) : parse option = .error ⟨option⟩ := by
  have hrest : option.toList.dropWhile (· != '=') = [] := by
    rw [List.dropWhile_eq_nil_iff]
    intro c hc
    exact bne_iff_ne.mpr fun heq => h (heq ▸ hc)
  rw [parse, hrest]

/-- What stands in front of the first equals sign is the path, what stands behind it is the text. -/
theorem parse_append_equals (h : '=' ∉ key.toList) (value : String) :
    parse (key ++ "=" ++ value) =
      if keyParts key = [] then .error ⟨key ++ "=" ++ value⟩ else .ok ⟨keyParts key, value⟩ := by
  have hkey : ∀ c ∈ key.toList, (c != '=') = true := fun c hc =>
    bne_iff_ne.mpr fun heq => h (heq ▸ hc)
  rw [parse, toList_append_equals, takeWhile_stop hkey rfl, dropWhile_stop hkey rfl]
  simp only [pathOf_toList, String.ofList_toList]
  cases keyParts key with
  | nil => rfl
  | cons part parts => rfl

/-- A text with an equals sign is a key and a value around the first one. -/
theorem exists_key (h : '=' ∈ option.toList) :
    ∃ key value : String, option = key ++ "=" ++ value ∧ '=' ∉ key.toList := by
  obtain ⟨key, value, hoption, hkey⟩ := List.eq_append_cons_of_mem h
  refine ⟨String.ofList key, String.ofList value, ?_, ?_⟩
  · rw [← String.toList_inj, toList_append_equals, String.toList_ofList, String.toList_ofList,
      hoption]
  · rwa [String.toList_ofList]

/-- What an option is read as. -/
theorem parse_eq_ok_iff : parse option = .ok assignment ↔ assignment.IsReadFrom option := by
  constructor
  · intro h
    by_cases hequals : '=' ∈ option.toList
    · obtain ⟨key, value, rfl, hkey⟩ := exists_key hequals
      rw [parse_append_equals hkey] at h
      split at h
      · cases h
      · next hpath =>
        obtain rfl := Except.ok.inj h
        exact ⟨key, rfl, hkey, rfl, hpath⟩
    · rw [parse_of_notMem hequals] at h
      cases h
  · rintro ⟨key, rfl, hkey, hpath, hne⟩
    rw [parse_append_equals hkey, if_neg (hpath ▸ hne), ← hpath]

example : parse " a..b c. =d=e" = .ok ⟨["a", "b c"], "d=e"⟩ := by decide

/-- An option is read in one way. -/
theorem IsReadFrom.unique {other : Assignment} (h : assignment.IsReadFrom option)
    (hother : other.IsReadFrom option) : assignment = other :=
  Except.ok.inj ((parse_eq_ok_iff.mpr h).symm.trans (parse_eq_ok_iff.mpr hother))

/-- Which options are refused, and that the refusal names them. -/
theorem parse_eq_error_iff : parse option = .error e ↔ e = ⟨option⟩ ∧ Unreadable option := by
  constructor
  · intro h
    by_cases hequals : '=' ∈ option.toList
    · obtain ⟨key, value, rfl, hkey⟩ := exists_key hequals
      rw [parse_append_equals hkey] at h
      split at h
      · next hpath =>
        exact ⟨(Except.error.inj h).symm, .inr ⟨key, value, rfl, hkey, hpath⟩⟩
      · cases h
    · rw [parse_of_notMem hequals] at h
      exact ⟨(Except.error.inj h).symm, .inl hequals⟩
  · rintro ⟨rfl, hequals | ⟨key, value, rfl, hkey, hpath⟩⟩
    · exact parse_of_notMem hequals
    · rw [parse_append_equals hkey, if_pos hpath]

/-- An option is refused when nothing can be read from it. -/
theorem unreadable_iff : Unreadable option ↔ ∀ assignment, parse option ≠ .ok assignment := by
  cases h : parse option with
  | ok assignment =>
    refine iff_of_false (fun hunreadable => ?_) fun hnone => hnone assignment rfl
    rw [parse_eq_error_iff.mpr ⟨rfl, hunreadable⟩] at h
    cases h
  | error e => exact iff_of_true (parse_eq_error_iff.mp h).2 nofun

/-- No option is about the data as a whole. -/
theorem path_ne_nil (h : parse option = .ok assignment) : assignment.path ≠ [] := by
  obtain ⟨_, -, -, -, hpath⟩ := parse_eq_ok_iff.mp h
  exact hpath

end Assignment

end QueryTemplates
