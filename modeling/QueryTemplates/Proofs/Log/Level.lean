import QueryTemplates.Proofs.Log.Delivery

/-!
# Any text as the name of a level

A level is asked for by a name in any case, and a name that means nothing asks for the usual level.
Three names do worse: two are no names of levels but mean something else, and one is the level below
all others, which a logger takes for no level at all. With every other name the file of an action
gets all records from the level of details on. Main statement: `records_reach_action_file`.

About `SPEC_FULL.md` §10.1 (lines 151–157).
-/

namespace QueryTemplates

namespace LogLevel

/-- The names that mean something other than a level. -/
def misnamed : List String := ["BASIC_FORMAT", "_STYLES"]

/-- A name in capitals means no level, or the lowest one, or one that is not below details. -/
theorem ofCapitals_cases (name : String) :
    (name ∈ misnamed ∧ ∃ e, ofCapitals name = .error e) ∨
      (name = "NOTSET" ∧ ofCapitals name = .ok 0) ∨
      (name ∉ misnamed ∧ name ≠ "NOTSET" ∧
        ∃ level, ofCapitals name = .ok level ∧ debug ≤ level) := by
  unfold ofCapitals
  split
  · exact .inr (.inr ⟨by decide, by decide, critical, rfl, by decide⟩)
  · exact .inr (.inr ⟨by decide, by decide, critical, rfl, by decide⟩)
  · exact .inr (.inr ⟨by decide, by decide, error, rfl, by decide⟩)
  · exact .inr (.inr ⟨by decide, by decide, warning, rfl, by decide⟩)
  · exact .inr (.inr ⟨by decide, by decide, warning, rfl, by decide⟩)
  · exact .inr (.inr ⟨by decide, by decide, info, rfl, by decide⟩)
  · exact .inr (.inr ⟨by decide, by decide, debug, rfl, by decide⟩)
  · exact .inr (.inl ⟨rfl, rfl⟩)
  · exact .inl ⟨by decide, _, rfl⟩
  · exact .inl ⟨by decide, _, rfl⟩
  · next hnotset hformat hstyles =>
    refine .inr (.inr ⟨?_, hnotset, info, rfl, by decide⟩)
    simp only [misnamed, List.mem_cons, List.not_mem_nil, or_false, not_or]
    exact ⟨hformat, hstyles⟩

theorem exists_ofCapitals_iff (name : String) :
    (∃ level, ofCapitals name = .ok level) ↔ name ∉ misnamed := by
  rcases ofCapitals_cases name with ⟨hmem, e, he⟩ | ⟨rfl, hlowest⟩ | ⟨hnot, -, level, hlevel, -⟩
  · refine iff_of_false ?_ (not_not_intro hmem)
    rintro ⟨level, hlevel⟩
    rw [he] at hlevel
    cases hlevel
  · exact iff_of_true ⟨0, hlowest⟩ (by decide)
  · exact iff_of_true ⟨level, hlevel⟩ hnot

/-- Any text is looked up in capitals; without any characters it asks for the usual level. -/
theorem ofValue_name (name : String) : ofValue (.str name) = ofCapitals (upperCase name) := by
  by_cases hname : name = ""
  · subst hname
    rw [upperCase_empty]
    rfl
  · exact ofValue_str hname

/-- The level that records must reach to be written, with the name of the level in capitals. -/
def reachedUnder (name : String) : Int := if name = "NOTSET" then warning else debug

end LogLevel

/-- A logger with the lowest level is one without a level. -/
theorem threshold_of_ofCapitals {name : String} {level : Int} {console : Console}
    {file : Option Location} (h : LogLevel.ofCapitals name = .ok level) :
    (Logger.configured console level file).threshold = LogLevel.reachedUnder name := by
  rcases LogLevel.ofCapitals_cases name with
    ⟨-, e, he⟩ | ⟨rfl, hlowest⟩ | ⟨-, hname, found, hfound, hle⟩
  · rw [h] at he
    cases he
  · obtain rfl := Except.ok.inj (h.symm.trans hlowest)
    rfl
  · obtain rfl := Except.ok.inj (h.symm.trans hfound)
    rw [LogState.threshold_configured hle, LogLevel.reachedUnder, if_neg hname]

theorem LogLevel.debug_le_reachedUnder (name : String) : debug ≤ reachedUnder name := by
  rw [reachedUnder]
  split
  · decide
  · decide

namespace LogState

variable {state : LogState} {console : Console} {level : Int} {location : Location}

/-- The file of a log gets the lines of the records that reach the logger, unless it asks for more
than the logger does. -/
theorem content_log_of_threshold (h : state.WritesTo console level (some location))
    (hdetails : LogLevel.debug ≤ state.logger.threshold) (record : LogRecord) :
    (state.log record).files.content location = state.files.content location ++
      if state.logger.threshold ≤ record.level then encodeUtf8 (record.line state.clock)
      else [] := by
  by_cases hreaches : state.logger.threshold ≤ record.level
  · rw [log_of_threshold_le h hreaches, if_pos hreaches, if_pos (Int.le_trans hdetails hreaches)]
    exact (content_linedFiles h _ location).trans (by rw [if_pos rfl])
  · rw [log, if_pos (Int.not_le.mp hreaches), if_neg hreaches, List.append_nil]

theorem openWanted_of_openActionFile {options : LogOptions} (htoFile : options.toFile = true)
    (haction : options.action ≠ "")
    (hopened : (openActionFile state.files options state.clock).2 = .ok location) :
    (state.openWanted options).2 = .ok (some location) := by
  have hwants : wantsFile options = true := by
    rw [wantsFile, htoFile, Bool.true_and, Bool.not_eq_true', String.isEmpty_eq_false_iff]
    exact haction
  rw [openWanted, if_pos hwants, hopened]
  rfl

/-- Once the wanted file is open, only the level can be refused. -/
theorem configure_ok_iff_of_openWanted {options : LogOptions} {file : Option Location}
    (hopened : (state.openWanted options).2 = .ok file) :
    (state.configure options).2 = .ok () ↔
      ∃ level, LogLevel.ofValue options.level = .ok level := by
  rw [configure_eq]
  cases LogLevel.ofValue options.level with
  | error e => simp
  | ok level =>
    rcases hwanted : state.openWanted options with ⟨files, _ | file⟩
    · rw [hwanted] at hopened
      cases hopened
    · simp

end LogState

open LogState

/-- Whatever the log was before, let it be configured with any text as the name of the level and
with a file for an action that can be opened. It is configured unless the name means something
other than a level. From then until the next configuration, the file gets the line of every record
from the level of details on, whatever the level of the console is; but with the name of the lowest
level the line of every record from the level of warnings on, and no other. -/
theorem records_reach_action_file {state : LogState} {options : LogOptions} {name : String}
    {location : Location} (hlevel : options.level = .str name) (htoFile : options.toFile = true)
    (haction : options.action ≠ "")
    (hopened : (openActionFile state.files options state.clock).2 = .ok location) :
    ((state.configure options).2 = .ok () ↔ upperCase name ∉ LogLevel.misnamed) ∧
    (upperCase name ∉ LogLevel.misnamed → ∀ between : List LogStep,
      (∀ step ∈ between, step.isConfigure = false) →
      ∀ later : LogState, later = state.after (.configure options :: between) →
      ∀ record : LogRecord, (later.log record).files.content location
        = later.files.content location ++
          if LogLevel.reachedUnder (upperCase name) ≤ record.level
            then encodeUtf8 (record.line later.clock) else []) := by
  have hwanted := openWanted_of_openActionFile htoFile haction hopened
  have hfound : LogLevel.ofValue options.level = LogLevel.ofCapitals (upperCase name) := by
    rw [hlevel, LogLevel.ofValue_name]
  have hdone : (state.configure options).2 = .ok () ↔ upperCase name ∉ LogLevel.misnamed := by
    rw [configure_ok_iff_of_openWanted hwanted, hfound, LogLevel.exists_ofCapitals_iff]
  refine ⟨hdone, ?_⟩
  rintro hname between hbetween later rfl record
  obtain ⟨level, hok⟩ := (LogLevel.exists_ofCapitals_iff _).mpr hname
  obtain ⟨file, hfile, hconfigured⟩ := writesTo_configure (hfound.trans hok) (hdone.mpr hname)
  obtain rfl := Except.ok.inj (hwanted.symm.trans hfile)
  have hwrites : (state.after (.configure options :: between)).WritesTo options.console level
      (some location) := by
    rw [after_cons]
    exact writesTo_after hconfigured hbetween
  have hthreshold : (state.after (.configure options :: between)).logger.threshold
      = LogLevel.reachedUnder (upperCase name) := by
    rw [hwrites.logger, threshold_of_ofCapitals hok]
  rw [← hthreshold]
  apply content_log_of_threshold hwrites
  rw [hthreshold]
  exact LogLevel.debug_le_reachedUnder _

/-- A name that means nothing, a record of details between two configurations, and one more. -/
theorem records_reach_action_file_under_unknown_name :
    let options : LogOptions := ⟨.str "chatty", "render", true, "d", .standard⟩
    let later := LogState.after {} [.configure options, .log ⟨LogLevel.debug, "one"⟩]
    (LogState.configure {} options).2 = .ok () ∧
      (later.log ⟨LogLevel.debug, "two"⟩).files.content
          [".", "d", "render", "render_0101000000.log"]
        = encodeUtf8 "01-01 00:00:00 [DEBG] one\n01-01 00:00:00 [DEBG] two\n" := by
  intro options later
  have hname : upperCase "chatty" = "CHATTY" := by decide +kernel
  have hopened : (LogState.openActionFile FileTree.empty options .start).2
      = .ok [".", "d", "render", "render_0101000000.log"] := eq_ok_of_toOption (by decide +kernel)
  obtain ⟨hdone, hwritten⟩ :=
    @records_reach_action_file {} options "chatty" _ rfl rfl (by decide) hopened
  have hnamed : upperCase "chatty" ∉ LogLevel.misnamed := by
    rw [hname]
    decide
  refine ⟨hdone.mpr hnamed, ?_⟩
  have hheld : later.files.content [".", "d", "render", "render_0101000000.log"]
      = encodeUtf8 "01-01 00:00:00 [DEBG] one\n" := by decide +kernel
  have hclock : later.clock = .start := by decide +kernel
  rw [hwritten hnamed [.log ⟨LogLevel.debug, "one"⟩] (by simp [LogStep.isConfigure]) later rfl,
    hheld, hclock, hname, if_pos (by decide)]
  decide +kernel

/-- Under one name the log is not configured at all, and under another one a record of details is
lost to the file. -/
theorem details_lost_under_two_names :
    let options (name : String) : LogOptions := ⟨.str name, "render", true, "d", .standard⟩
    let configured (name : String) : LogState × Except LogError Unit :=
      LogState.configure {} (options name)
    ((configured "basic_format").2.isOk = false) ∧
      (configured "notset").2 = .ok () ∧
      ((configured "notset").1.log ⟨LogLevel.debug, "one"⟩).files.content
        [".", "d", "render", "render_0101000000.log"] = [] := by
  refine ⟨by decide +kernel, eq_ok_of_isOk (by decide +kernel), by decide +kernel⟩

end QueryTemplates
