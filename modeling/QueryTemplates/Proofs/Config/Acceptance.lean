import QueryTemplates.Proofs.Config.Selection
import QueryTemplates.Proofs.Text.Blank
import QueryTemplates.Proofs.Value.Layering

/-!
# Which configurations are accepted

`Config.Documented` says of the entries of a mapping what the documentation of configurations asks
for, without reading them: what the log section may hold, that the data is a mapping, and which
queries there are. The main statement is that a mapping is read as a configuration exactly when it
is documented, and that every configuration that is read is valid.

About `SPEC_FULL.md` §10.3 (lines 165–178).
-/

namespace QueryTemplates

/-! ### Sections -/

/-- What a section of a configuration holds: one that is absent or null is empty, and any other one
is a mapping. -/
def Mapping.SectionIs (entries : Mapping) (name : String) (content : Mapping) : Prop :=
  match get? entries (.str name) with
  | none | some .null => content = []
  | some v => v.entries? = some content

section

variable {raw : Value} {entries content : Mapping} {name : String}

/-- In a mapping a section is what stands at its key; null counts as absent. -/
theorem section?_of_entries? (hraw : raw.entries? = some entries) : section? raw (.str name)
    = match Mapping.get? entries (.str name) with
      | none | some .null => .ok none
      | some v => .ok (some v) := by
  have hentries : raw.entriesFor "get" = .ok entries := by rw [Value.entriesFor, hraw]
  rw [section?, hentries]
  show (match Mapping.get? entries (.str name) with
    | none | some .null => (pure none : Except ReadError (Option Value))
    | some v => pure (some v)) = _
  split <;> rfl

theorem readSection_eq_ok_iff (hraw : raw.entries? = some entries) :
    readSection raw (.str name) false = .ok content ↔ entries.SectionIs name content := by
  rw [readSection, section?_of_entries? hraw, Mapping.SectionIs]
  split
  · show Except.ok [] = .ok content ↔ _
    rw [Except.ok.injEq, eq_comm]
  · show Except.ok [] = .ok content ↔ _
    rw [Except.ok.injEq, eq_comm]
  · next v _ _ =>
    show expectMapping _ v = .ok content ↔ _
    rw [expectMapping_eq_ok_iff, Value.entries?_eq_some_iff]

/-- A list at a key of a configuration is found there. -/
theorem section?_eq_list_iff (hraw : raw.entries? = some entries) {items : List Value} :
    (∃ v, section? raw (.str name) = .ok (some v) ∧ v.bare = .list items) ↔
      ∃ v, Mapping.get? entries (.str name) = some v ∧ v.bare = .list items := by
  rw [section?_of_entries? hraw]
  split
  · simp_all
  · simp_all
  · simp_all

end

/-! ### Settings of the log -/

namespace LogSettings

variable {raw : Value} {settings : LogSettings}

theorem read_eq_ok_iff :
    read raw = .ok settings ↔ ∃ content, readSection raw (.str "log") false = .ok content ∧
      ∃ level, (Mapping.get? content (.str "level")).getD (.str "INFO") = .str level ∧
        settings.level = upperCase level ∧
        (Mapping.get? content (.str "to_file")).getD (.bool false) = .bool settings.toFile ∧
        (Mapping.get? content (.str "dir")).getD (.str "log") = .str settings.directory := by
  show (readSection raw (.str "log") false >>= fun content =>
    expectText (Place.key ⟨"log", []⟩ "level")
      ((Mapping.get? content (.str "level")).getD (.str "INFO")) >>= fun level =>
    expectBool (Place.key ⟨"log", []⟩ "to_file")
      ((Mapping.get? content (.str "to_file")).getD (.bool false)) >>= fun toFile =>
    expectText (Place.key ⟨"log", []⟩ "dir")
      ((Mapping.get? content (.str "dir")).getD (.str "log")) >>= fun directory =>
    Except.ok ⟨upperCase level, toFile, directory⟩) = .ok settings ↔ _
  simp only [bind_eq_ok_iff, expectText_eq_ok_iff, expectBool_eq_ok_iff, Except.ok.injEq]
  constructor
  · rintro ⟨content, hcontent, level, hlevel, toFile, htoFile, directory, hdirectory, rfl⟩
    exact ⟨content, hcontent, level, hlevel, rfl, htoFile, hdirectory⟩
  · rintro ⟨content, hcontent, level, hlevel, hupper, htoFile, hdirectory⟩
    refine ⟨content, hcontent, level, hlevel, settings.toFile, htoFile, settings.directory,
      hdirectory, ?_⟩
    rw [← hupper]

/-- Settings pass with a level that has a name and a directory that is not blank. -/
theorem check_eq_ok_iff :
    settings.check = .ok () ↔
      settings.level ∈ levelNames ∧ ∃ c ∈ settings.directory.toList, isBlank c = false := by
  have hcheck : settings.check
      = if !levelNames.contains settings.level then .error .unknownLevel
        else if (stripBlank settings.directory.toList).isEmpty then .error .blankDirectory
        else .ok () := by
    rw [check]
    split
    · rfl
    · rfl
  have hblank : (stripBlank settings.directory.toList).isEmpty = true ↔
      ¬∃ c ∈ settings.directory.toList, isBlank c = false := by
    rw [List.isEmpty_iff, stripBlank_eq_nil_iff]
    simp
  have hlevel : (!levelNames.contains settings.level) = true ↔ settings.level ∉ levelNames := by
    simp
  rw [hcheck]
  by_cases hknown : settings.level ∈ levelNames
  · rw [if_neg (hlevel.not.mpr (not_not.mpr hknown))]
    by_cases hnamed : ∃ c ∈ settings.directory.toList, isBlank c = false
    · rw [if_neg (hblank.not.mpr (not_not.mpr hnamed))]
      exact ⟨fun _ => ⟨hknown, hnamed⟩, fun _ => rfl⟩
    · rw [if_pos (hblank.mpr hnamed)]
      constructor
      · intro h
        cases h
      · intro h
        exact absurd h.2 hnamed
  · rw [if_pos (hlevel.mpr hknown)]
    constructor
    · intro h
      cases h
    · intro h
      exact absurd h.1 hknown

end LogSettings

/-! ### Templates -/

namespace Template

/-- The name that a value gives the template it describes: its text without the blanks around it,
unless there is nothing but blanks. -/
def writtenName (item : Value) : Option String :=
  match item.entries?.bind (Mapping.get? · (.str "NAME")) with
  | some (.str s) => trimName s
  | _ => none

/-- A name that is left of a text is stripped and not empty. -/
theorem stripped_of_trimName {s name : String} (h : trimName s = some name) :
    name ≠ "" ∧ stripBlank name.toList = name.toList := by
  rw [trimName] at h
  cases hstripped : stripBlank s.toList with
  | nil =>
    rw [hstripped] at h
    cases h
  | cons c cs =>
    rw [hstripped] at h
    obtain rfl := Option.some.inj h
    constructor
    · intro hempty
      have hchars := congrArg String.toList hempty
      rw [String.toList_ofList] at hchars
      cases hchars
    · rw [String.toList_ofList, ← hstripped, stripBlank_stripBlank]

/-- The name that is written is not empty and has no blanks at its ends. -/
theorem stripped_of_writtenName {item : Value} {name : String}
    (h : writtenName item = some name) : name ≠ "" ∧ stripBlank name.toList = name.toList := by
  rw [writtenName] at h
  split at h
  · exact stripped_of_trimName h
  · cases h

theorem name_of_parse {place : Place} {item : Value} {template : Template}
    (h : parse place item = .ok template) : template.name = writtenName item := by
  obtain ⟨entries, hentries, h⟩ := bind_eq_ok_iff.mp h
  obtain ⟨_, -, h⟩ := bind_eq_ok_iff.mp h
  obtain ⟨name, hname, h⟩ := bind_eq_ok_iff.mp h
  obtain ⟨data, -, h⟩ := bind_eq_ok_iff.mp h
  obtain ⟨body, -, h⟩ := bind_eq_ok_iff.mp h
  obtain ⟨query, -, h⟩ := bind_eq_ok_iff.mp h
  obtain rfl := Except.ok.inj h
  have hitem : item.entries? = some entries :=
    Value.entries?_eq_some_iff.mpr (expectMapping_eq_ok_iff.mp hentries)
  rw [writtenName, hitem, Option.bind_some]
  rw [readName] at hname
  cases hfound : Mapping.get? entries (.str "NAME") with
  | none =>
    rw [hfound] at hname
    exact (Except.ok.inj hname).symm
  | some v =>
    rw [hfound] at hname
    change trimName <$> expectText (place.key "NAME") v = .ok name at hname
    cases htext : expectText (place.key "NAME") v with
    | error e =>
      rw [htext] at hname
      cases hname
    | ok s =>
      rw [htext] at hname
      rw [expectText_eq_ok_iff.mp htext]
      exact (Except.ok.inj hname).symm

end Template

namespace Config

/-- A template is read from an item under the number that the item has in the list. -/
def ReadsAs (entry : Value × Nat) (template : Template) : Prop :=
  Template.parse ⟨"queries", [.index entry.2]⟩ entry.1 = .ok template

theorem readTemplates_eq_mapM (index : Nat) (items : List Value) :
    readTemplates index items = (items.zipIdx index).mapM fun entry =>
      Template.parse ⟨"queries", [.index entry.2]⟩ entry.1 := by
  induction items generalizing index with
  | nil => rfl
  | cons item rest ih =>
    rw [readTemplates, List.zipIdx_cons, List.mapM_cons, ih]

theorem readTemplates_eq_ok_iff {index : Nat} {items : List Value} {templates : List Template} :
    readTemplates index items = .ok templates ↔
      List.Forall₂ ReadsAs (items.zipIdx index) templates := by
  rw [readTemplates_eq_mapM, mapM_eq_ok_iff]
  rfl

/-- Templates have the names that their items give them. -/
theorem names_of_templates {items : List Value} {index : Nat} {templates : List Template}
    (h : List.Forall₂ ReadsAs (items.zipIdx index) templates) :
    templates.map Template.name = items.map Template.writtenName := by
  induction items generalizing index templates with
  | nil =>
    cases h
    rfl
  | cons item rest ih =>
    rw [List.zipIdx_cons] at h
    cases h with
    | cons hitem hrest => rw [List.map_cons, List.map_cons, Template.name_of_parse hitem, ih hrest]

/-- The parts of a configuration are read exactly when each of its three sections is. -/
theorem readParts_eq_ok_iff {raw : Value} {entries : Mapping} (hraw : raw.entries? = some entries)
    {config : Config} :
    readParts raw = .ok config ↔
      LogSettings.read raw = .ok config.log ∧ entries.SectionIs "data" config.data ∧
        ∃ v items, Mapping.get? entries (.str "queries") = some v ∧ v.bare = .list items ∧
          List.Forall₂ ReadsAs items.zipIdx config.templates := by
  constructor
  · intro h
    obtain ⟨log, hlog, h⟩ := bind_eq_ok_iff.mp h
    obtain ⟨data, hdata, h⟩ := bind_eq_ok_iff.mp h
    obtain ⟨found, hfound, h⟩ := bind_eq_ok_iff.mp h
    cases found with
    | none => cases h
    | some v =>
      obtain ⟨items, hitems, h⟩ := bind_eq_ok_iff.mp h
      obtain ⟨templates, htemplates, h⟩ := bind_eq_ok_iff.mp h
      obtain rfl := Except.ok.inj h
      obtain ⟨w, hw, hlist⟩ :=
        (section?_eq_list_iff hraw).mp ⟨v, hfound, expectList_eq_ok_iff.mp hitems⟩
      exact ⟨hlog, (readSection_eq_ok_iff hraw).mp hdata, w, items, hw, hlist,
        readTemplates_eq_ok_iff.mp htemplates⟩
  · rintro ⟨hlog, hdata, v, items, hv, hlist, htemplates⟩
    obtain ⟨w, hw, hlist⟩ := (section?_eq_list_iff hraw).mpr ⟨v, hv, hlist⟩
    rw [readParts, hlog, ok_bind, (readSection_eq_ok_iff hraw).mpr hdata, ok_bind, hw, ok_bind]
    show (expectList ⟨"queries", []⟩ w >>= _) = _
    rw [expectList_eq_ok_iff.mpr hlist, ok_bind, readTemplates_eq_ok_iff.mpr htemplates]
    rfl

/-- A configuration is read, and then the level and the names in it are checked. -/
theorem parse_eq_ok_iff {raw : Value} {config : Config} :
    Config.parse raw = .ok config ↔
      readParts raw = .ok config ∧ config.log.check = .ok () ∧
        checkTemplates config.templates = .ok () := by
  constructor
  · intro h
    obtain ⟨parts, hparts, h⟩ := bind_eq_ok_iff.mp h
    obtain ⟨_, hlog, h⟩ := bind_eq_ok_iff.mp h
    obtain ⟨_, htemplates, h⟩ := bind_eq_ok_iff.mp h
    obtain rfl := Except.ok.inj h
    exact ⟨mapError_eq_ok_iff.mp hparts, hlog, htemplates⟩
  · rintro ⟨hparts, hlog, htemplates⟩
    rw [Config.parse, mapError_eq_ok_iff.mpr hparts, ok_bind, hlog, ok_bind, htemplates, ok_bind]
    rfl

/-! ### Documented and valid configurations -/

/-- The names of levels as they are documented. -/
def documentedLevels : List String := ["DEBUG", "INFO", "WARNING", "ERROR", "CRITICAL"]

theorem mem_levelNames_iff {level : String} : level ∈ levelNames ↔ level ∈ documentedLevels :=
  List.Perm.mem_iff (by decide)

/-- A text in any case is the name of a level. -/
def IsLevel (text : String) : Prop := upperCase text ∈ documentedLevels

/-- A setting may be absent; if it is present it has a form and fits. -/
def SettingFits {α : Type} (content : Mapping) (name : String) (form : α → Value)
    (fits : α → Prop) : Prop :=
  ∀ v, Mapping.get? content (.str name) = some v → ∃ a, v = form a ∧ fits a

/-- Where the default fits, a setting fits exactly when it fits with its default. -/
theorem settingFits_iff {α : Type} {content : Mapping} {name : String} {form : α → Value}
    {fits : α → Prop} (default : α) (hdefault : fits default) :
    SettingFits content name form fits ↔
      ∃ a, (Mapping.get? content (.str name)).getD (form default) = form a ∧ fits a := by
  rw [SettingFits]
  cases Mapping.get? content (.str name) with
  | none =>
    constructor
    · intro _
      exact ⟨default, rfl, hdefault⟩
    · intro _ v hv
      cases hv
  | some v => simp

/-- A directory has a name when its path is not all blank. -/
def HasName (directory : String) : Prop := ∃ c ∈ directory.toList, isBlank c = false

/-- What the section about the log may hold: a level in any case, a truth value that tells whether
there are files, and a directory with a name. -/
structure DocumentedLog (content : Mapping) : Prop where
  level : SettingFits content "level" Value.str IsLevel
  toFile : SettingFits content "to_file" Value.bool fun _ => True
  directory : SettingFits content "dir" Value.str HasName

/-- What the entries of a configuration may be. -/
structure Documented (entries : Mapping) : Prop where
  log : ∃ content, entries.SectionIs "log" content ∧ DocumentedLog content
  data : ∃ content, entries.SectionIs "data" content
  queries : ∃ v items, Mapping.get? entries (.str "queries") = some v ∧ v.bare = .list items ∧
    items ≠ [] ∧ (∀ entry ∈ items.zipIdx, ∃ template, ReadsAs entry template) ∧
    NamesDiffer (items.map Template.writtenName)

/-- What can be relied on in a configuration that was read. -/
structure Valid (config : Config) : Prop where
  level : config.log.level ∈ documentedLevels
  directory : HasName config.log.directory
  templates : config.templates ≠ []
  names : ∀ template ∈ config.templates, ∀ name, template.name = some name →
    name ≠ "" ∧ stripBlank name.toList = name.toList
  differ : NamesDiffer (config.templates.map Template.name)

/-- Settings can be read and pass their check exactly when the section about the log is as
documented. -/
theorem exists_settings_iff {raw : Value} {entries : Mapping} (hraw : raw.entries? = some entries) :
    (∃ settings, LogSettings.read raw = .ok settings ∧ settings.check = .ok ()) ↔
      ∃ content, entries.SectionIs "log" content ∧ DocumentedLog content := by
  have hlevel : IsLevel "INFO" := by
    rw [IsLevel]
    decide
  have hdirectory : HasName "log" := ⟨'l', by decide, rfl⟩
  simp only [LogSettings.read_eq_ok_iff, LogSettings.check_eq_ok_iff, readSection_eq_ok_iff hraw,
    mem_levelNames_iff]
  constructor
  · rintro ⟨settings, ⟨content, hcontent, level, hread, hupper, htoFile, hdir⟩, hknown, hnamed⟩
    rw [hupper] at hknown
    refine ⟨content, hcontent, ?_, ?_, ?_⟩
    · exact (settingFits_iff _ hlevel).mpr ⟨level, hread, hknown⟩
    · exact (settingFits_iff false (by trivial)).mpr ⟨settings.toFile, htoFile, trivial⟩
    · exact (settingFits_iff _ hdirectory).mpr ⟨settings.directory, hdir, hnamed⟩
  · rintro ⟨content, hcontent, hlog⟩
    obtain ⟨level, hread, hknown⟩ := (settingFits_iff _ hlevel).mp hlog.level
    obtain ⟨toFile, htoFile, -⟩ := (settingFits_iff false (by trivial)).mp hlog.toFile
    obtain ⟨directory, hdir, hnamed⟩ := (settingFits_iff _ hdirectory).mp hlog.directory
    exact ⟨⟨upperCase level, toFile, directory⟩,
      ⟨content, hcontent, level, hread, rfl, htoFile, hdir⟩, hknown, hnamed⟩

/-- Items can be read and pass their check exactly when each of them can be read, there are some,
and their names differ. -/
theorem exists_templates_iff {items : List Value} :
    (∃ templates, List.Forall₂ ReadsAs items.zipIdx templates ∧
        checkTemplates templates = .ok ()) ↔
      items ≠ [] ∧ (∀ entry ∈ items.zipIdx, ∃ template, ReadsAs entry template) ∧
        NamesDiffer (items.map Template.writtenName) := by
  simp only [checkTemplates_eq_ok_iff]
  constructor
  · rintro ⟨templates, hread, hsome, hdiffer⟩
    refine ⟨?_, ?_, ?_⟩
    · rintro rfl
      cases hread
      exact hsome rfl
    · intro entry hentry
      obtain ⟨template, -, htemplate⟩ := exists_of_mem_of_forall₂ hread hentry
      exact ⟨template, htemplate⟩
    · rwa [← names_of_templates hread]
  · rintro ⟨hsome, hread, hdiffer⟩
    obtain ⟨templates, htemplates⟩ := exists_forall₂_of_forall_mem hread
    refine ⟨templates, htemplates, ?_, ?_⟩
    · rintro rfl
      cases items with
      | nil => exact hsome rfl
      | cons item rest => cases htemplates
    · rwa [names_of_templates htemplates]

/-- A configuration can be relied on when it was read. -/
theorem valid_of_parse {raw : Value} {entries : Mapping} (hraw : raw.entries? = some entries)
    {config : Config} (h : Config.parse raw = .ok config) : config.Valid := by
  obtain ⟨hparts, hlog, htemplates⟩ := parse_eq_ok_iff.mp h
  obtain ⟨hlevel, hdirectory⟩ := LogSettings.check_eq_ok_iff.mp hlog
  obtain ⟨hsome, hdiffer⟩ := checkTemplates_eq_ok_iff.mp htemplates
  obtain ⟨-, -, _, items, -, -, hread⟩ := (readParts_eq_ok_iff hraw).mp hparts
  refine ⟨mem_levelNames_iff.mp hlevel, hdirectory, hsome, ?_, hdiffer⟩
  intro template htemplate name hname
  have hwritten : template.name ∈ items.map Template.writtenName := by
    rw [← names_of_templates hread]
    exact List.mem_map_of_mem htemplate
  obtain ⟨item, -, hitem⟩ := List.mem_map.mp hwritten
  rw [hname] at hitem
  exact Template.stripped_of_writtenName hitem

end Config

open Config

/-- A mapping is read as a configuration exactly when it is documented. What is read then is valid,
and its templates are what the items of its queries are read as, each under its number. -/
theorem parse_ok_iff_documented {raw : Value} {entries : Mapping}
    (hraw : raw.entries? = some entries) :
    ((∃ config, Config.parse raw = .ok config) ↔ Documented entries) ∧
      ∀ config, Config.parse raw = .ok config → config.Valid ∧
        ∃ v items, Mapping.get? entries (.str "queries") = some v ∧ v.bare = .list items ∧
          List.Forall₂ ReadsAs items.zipIdx config.templates := by
  refine ⟨⟨?_, ?_⟩, ?_⟩
  · rintro ⟨config, h⟩
    obtain ⟨hparts, hlog, htemplates⟩ := parse_eq_ok_iff.mp h
    obtain ⟨hsettings, hdata, v, items, hv, hlist, hread⟩ := (readParts_eq_ok_iff hraw).mp hparts
    exact ⟨(exists_settings_iff hraw).mp ⟨config.log, hsettings, hlog⟩, ⟨config.data, hdata⟩,
      v, items, hv, hlist, exists_templates_iff.mp ⟨config.templates, hread, htemplates⟩⟩
  · rintro ⟨hlog, ⟨data, hdata⟩, v, items, hv, hlist, hitems⟩
    obtain ⟨settings, hsettings, hsettled⟩ := (exists_settings_iff hraw).mpr hlog
    obtain ⟨templates, hread, htemplates⟩ := exists_templates_iff.mpr hitems
    have hparts : readParts raw = .ok ⟨settings, data, templates⟩ :=
      (readParts_eq_ok_iff hraw).mpr ⟨hsettings, hdata, v, items, hv, hlist, hread⟩
    exact ⟨_, parse_eq_ok_iff.mpr ⟨hparts, hsettled, htemplates⟩⟩
  · intro config h
    obtain ⟨-, -, v, items, hv, hlist, hread⟩ :=
      (readParts_eq_ok_iff hraw).mp (parse_eq_ok_iff.mp h).1
    exact ⟨valid_of_parse hraw h, v, items, hv, hlist, hread⟩

/-- A blank name is none, and two names that differ in blanks only are one, which is refused. -/
theorem names_alike_only_when_stripped :
    let entries (second : String) : Mapping := [(.str "log", .map [(.str "level", .str "warning")]),
      (.str "data", .null), (.str "queries", .list [
        .map [(.str "NAME", .str "a"), (.str "QUERY", .str "x")],
        .map [(.str "NAME", .str second), (.str "QUERY", .str "y")]])]
    (∀ second, (Value.map (entries second)).entries? = some (entries second)) ∧
      (∃ config, Config.parse (.map (entries "  ")) = .ok config) ∧
      ¬∃ config, Config.parse (.map (entries " a ")) = .ok config := by
  intro entries
  have hraw (second : String) : (Value.map (entries second)).entries? = some (entries second) := rfl
  refine ⟨hraw, (parse_ok_iff_documented (hraw "  ")).1.mpr ⟨?_, ?_, ?_⟩, ?_⟩
  · refine ⟨[(.str "level", .str "warning")], rfl, ?_, ?_, ?_⟩
    · intro v hv
      obtain rfl := Option.some.inj hv
      exact ⟨"warning", rfl, by rw [IsLevel]; decide⟩
    · intro v hv
      cases hv
    · intro v hv
      cases hv
  · exact ⟨[], rfl⟩
  · refine ⟨_, _, rfl, rfl, List.cons_ne_nil _ _, ?_, ?_⟩
    · intro entry hentry
      rcases List.mem_cons.mp hentry with rfl | hentry
      · exact ⟨_, Template.parse_named _ "a" "x"⟩
      · obtain rfl := List.mem_singleton.mp hentry
        exact ⟨_, Template.parse_named _ "  " "y"⟩
    · rw [NamesDiffer]
      decide
  · rw [(parse_ok_iff_documented (hraw " a ")).1]
    rintro ⟨-, -, v, items, hv, hlist, -, -, hdiffer⟩
    obtain rfl := Option.some.inj hv
    obtain rfl := Value.list.inj hlist
    rw [NamesDiffer] at hdiffer
    revert hdiffer
    decide

end QueryTemplates
