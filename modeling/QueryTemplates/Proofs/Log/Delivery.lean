import QueryTemplates.Proofs.Log.Configure

/-!
# Records are delivered once, and only where they are asked for

The life of a log is a sequence of steps: the clock moves, the log is configured, a record is
logged. After a configuration the logger writes to one console and to at most one file until the
next configuration comes, and every record that is logged meanwhile is written there once, if its
level suffices, and nowhere else. No step ever takes anything away from a file.

About `SPEC_FULL.md` §10.1 (lines 151–157).
-/

namespace QueryTemplates

/-- What can happen to a log. -/
inductive LogStep where
  | clock (moment : Clock)
  | configure (options : LogOptions)
  | log (record : LogRecord)

/-- The step configures the log. -/
def LogStep.isConfigure : LogStep → Bool
  | .configure _ => true
  | .clock _ | .log _ => false

namespace LogState

/-- The state after a step. -/
def step (state : LogState) : LogStep → LogState
  | .clock moment => { state with clock := moment }
  | .configure options => (state.configure options).1
  | .log record => state.log record

/-- The state after steps one after the other. -/
def after (state : LogState) (steps : List LogStep) : LogState := steps.foldl step state

theorem after_append (state : LogState) (steps more : List LogStep) :
    state.after (steps ++ more) = (state.after steps).after more :=
  List.foldl_append

theorem after_cons (state : LogState) (first : LogStep) (rest : List LogStep) :
    state.after (first :: rest) = (state.step first).after rest := rfl

/-! ### What logging keeps -/

/-- What every write keeps is kept when a record is logged, whatever the handlers are. -/
theorem log_preserves {motive : LogState → Prop}
    (hwrite : ∀ state text sink, motive state → motive (state.write text sink)) {state : LogState}
    (h : motive state) (record : LogRecord) : motive (state.log record) := by
  have hhandle : ∀ state handler, motive state → motive (state.handle record handler) := by
    intro state handler h
    rw [handle]
    split
    · exact hwrite _ _ _ h
    · exact h
  -- the fold is over any state, since every handler starts from what the one before left
  have hhandlers : ∀ (handlers : List LogHandler) (state : LogState), motive state →
      motive (handlers.foldl (handle record) state) := by
    intro handlers
    induction handlers with
    | nil => exact fun state h => h
    | cons handler rest ih => exact fun state h => ih _ (hhandle state handler h)
  rw [log]
  split
  · exact h
  · split
    · split
      · exact h
      · exact hwrite _ _ _ h
    · exact hhandlers _ _ h

theorem logger_log (state : LogState) (record : LogRecord) :
    (state.log record).logger = state.logger := by
  refine log_preserves (motive := fun later => later.logger = state.logger) ?_ rfl record
  rintro later text (console | location) h
  · exact h
  · exact h

theorem growsTo_log (state : LogState) (record : LogRecord) :
    state.files.GrowsTo (state.log record).files := by
  refine log_preserves (motive := fun later => state.files.GrowsTo later.files) ?_
    (FileTree.GrowsTo.refl _) record
  rintro later text (console | location) h
  · exact h
  · exact h.trans (FileTree.growsTo_append _ _ _)

/-! ### Files only grow -/

theorem growsTo_step (state : LogState) (step : LogStep) :
    state.files.GrowsTo (state.step step).files := by
  cases step with
  | clock moment => exact FileTree.GrowsTo.refl _
  | configure options => exact growsTo_configure state options
  | log record => exact growsTo_log state record

/-- However often the log is configured, and for whatever files, no step takes anything away. -/
theorem growsTo_after (state : LogState) (steps : List LogStep) :
    state.files.GrowsTo (state.after steps).files := by
  induction steps generalizing state with
  | nil => exact FileTree.GrowsTo.refl _
  | cons first rest ih => exact (growsTo_step state first).trans (ih _)

/-! ### From one configuration to the next -/

/-- The log writes to a console, to records of a level, and to a file that is there, if to any. -/
structure WritesTo (state : LogState) (console : Console) (level : Int)
    (file : Option Location) : Prop where
  logger : state.logger = .configured console level file
  isFile : ∀ location, file = some location → state.files.IsFile location

variable {state : LogState} {console : Console} {level : Int} {file : Option Location}

/-- A step that is no configuration leaves the log writing where it did. -/
theorem writesTo_step (h : state.WritesTo console level file) {step : LogStep}
    (hstep : step.isConfigure = false) : (state.step step).WritesTo console level file := by
  have hlogger : (state.step step).logger = state.logger := by
    cases step with
    | clock moment => rfl
    | configure options => cases hstep
    | log record => exact logger_log state record
  refine ⟨hlogger.trans h.logger, ?_⟩
  intro location hlocation
  exact (growsTo_step state step location (h.isFile location hlocation)).1

/-- Until the next configuration the log writes where it did. -/
theorem writesTo_after (h : state.WritesTo console level file) {steps : List LogStep}
    (hsteps : ∀ step ∈ steps, step.isConfigure = false) :
    (state.after steps).WritesTo console level file := by
  induction steps generalizing state with
  | nil => exact h
  | cons first rest ih =>
    obtain ⟨hfirst, hrest⟩ := List.forall_mem_cons.mp hsteps
    exact ih (writesTo_step h hfirst) hrest

/-! ### One record -/

/-- The files with a line behind what the file of a log holds, where there is one. -/
def linedFiles (state : LogState) (file : Option Location) (line : String) : FileTree :=
  match file with
  | some location => state.files.append location line
  | none => state.files

/-- With a level from details on, the logger takes all records from details on. -/
theorem threshold_configured (hlevel : LogLevel.debug ≤ level) :
    (Logger.configured console level file).threshold = LogLevel.debug := by
  rw [Logger.threshold]
  show (if min LogLevel.debug level = 0 then _ else min LogLevel.debug level) = _
  rw [Int.min_eq_left hlevel]
  rfl

/-- The handler of a console writes the line of a record that reaches its level. -/
theorem handle_console (state : LogState) (record : LogRecord) (console : Console) (level : Int) :
    state.handle record { sink := .console console, level } = { state with
      written := state.written ++
        if level ≤ record.level then [(console, record.line state.clock)] else [] } := by
  rw [handle]
  by_cases hshown : level ≤ record.level
  · rw [if_pos hshown, if_pos hshown]
    rfl
  · rw [if_neg hshown, if_neg hshown, List.append_nil]

/-- A record that reaches the logger is shown on the console from the level on, and stands in the
file from the level of details on; nothing else changes. -/
theorem log_of_threshold_le (h : state.WritesTo console level file) {record : LogRecord}
    (hreaches : state.logger.threshold ≤ record.level) :
    state.log record = { state with
      written := state.written ++
        if level ≤ record.level then [(console, record.line state.clock)] else []
      files := if LogLevel.debug ≤ record.level
        then state.linedFiles file (record.line state.clock) else state.files } := by
  have hhandlers : state.logger.handlers = { sink := .console console, level } ::
      file.toList.map fun location => { sink := .file location, level := LogLevel.debug } := by
    rw [h.logger, Logger.configured]
  rw [log, if_neg (Int.not_lt.mpr hreaches), hhandlers]
  show (file.toList.map _).foldl (handle record) (state.handle record _) = _
  rw [handle_console]
  cases file with
  | none => simp only [linedFiles, ite_self, Option.toList_none, List.map_nil, List.foldl_nil]
  | some location =>
    show handle record _ { sink := .file location, level := LogLevel.debug } = _
    rw [handle]
    by_cases hdetails : LogLevel.debug ≤ record.level
    · rw [if_pos hdetails, if_pos hdetails]
      rfl
    · rw [if_neg hdetails, if_neg hdetails]

/-- The line of a record is shown on the console from the level on, and stands in the file from the
level of details on; nothing else changes. -/
theorem log_of_writesTo (h : state.WritesTo console level file) (hlevel : LogLevel.debug ≤ level)
    (record : LogRecord) :
    state.log record = { state with
      written := state.written ++
        if level ≤ record.level then [(console, record.line state.clock)] else []
      files := if LogLevel.debug ≤ record.level
        then state.linedFiles file (record.line state.clock) else state.files } := by
  have hthreshold : state.logger.threshold = LogLevel.debug := by
    rw [h.logger, threshold_configured hlevel]
  by_cases hlow : record.level < LogLevel.debug
  · -- the logger refuses the record, so it does not reach the console either
    have hnone : ¬ level ≤ record.level := by omega
    have hnothing : ¬ LogLevel.debug ≤ record.level := by omega
    rw [log, hthreshold, if_pos hlow, if_neg hnone, if_neg hnothing, List.append_nil]
  · exact log_of_threshold_le h (by omega)

/-- The line stands behind what the file of the log holds, and in no other file. -/
theorem content_linedFiles (h : state.WritesTo console level file) (line : String)
    (location : Location) :
    (state.linedFiles file line).content location
      = state.files.content location ++ if file = some location then encodeUtf8 line else [] := by
  cases file with
  | none => exact (List.append_nil _).symm
  | some found =>
    show (state.files.append found line).content location = _
    rw [FileTree.content_append (h.isFile found rfl)]
    simp only [Option.some.injEq, eq_comm]

/-- A record adds its line to the file of the log, and nothing to any other. -/
theorem content_log (h : state.WritesTo console level file) (hlevel : LogLevel.debug ≤ level)
    (record : LogRecord) (location : Location) :
    (state.log record).files.content location = state.files.content location ++
      if file = some location ∧ LogLevel.debug ≤ record.level
        then encodeUtf8 (record.line state.clock) else [] := by
  rw [log_of_writesTo h hlevel]
  by_cases hdetails : LogLevel.debug ≤ record.level
  · simp only [hdetails, and_true, if_true]
    exact content_linedFiles h _ location
  · simp only [hdetails, and_false, if_false, List.append_nil]

/-- What a configuration that succeeds sets up, until the next one comes. -/
theorem writesTo_configure {options : LogOptions}
    (hlevel : LogLevel.ofValue options.level = .ok level)
    (hdone : (state.configure options).2 = .ok ()) :
    ∃ file, (state.openWanted options).2 = .ok file ∧
      (state.step (.configure options)).WritesTo options.console level file := by
  obtain ⟨found, file, hfound, hopened, hafter⟩ := configure_eq_ok (Prod.ext rfl hdone)
  obtain rfl := Except.ok.inj (hlevel.symm.trans hfound)
  have hstep : state.step (.configure options)
      = ({ state with files := (state.openWanted options).1 } : LogState).withLogger
        (.configured options.console level file) := hafter
  refine ⟨file, hopened, ?_, ?_⟩
  · rw [hstep]
    rfl
  · rintro location rfl
    rw [hstep]
    exact isFile_of_openWanted hopened

end LogState

open LogState

/-- Take a log with any past, a configuration of it that succeeds and asks for a level, and what
happens until the next one comes. Then the log has one handler for the console and, exactly when a
file is wanted for an action with a name, one for the file. A record puts one line on the console if
it reaches the level and one line into the file if it reaches the level of details; all else that
was ever written to stays as it is. And from any point of the past to the present files only
grow. -/
theorem delivered_once {start state : LogState} {past between : List LogStep}
    {options : LogOptions} {level : Int} (hasked : LogLevel.AskedBy options.level level)
    (hdone : ((start.after past).configure options).2 = .ok ())
    (hbetween : ∀ step ∈ between, step.isConfigure = false)
    (hstate : state = start.after (past ++ .configure options :: between)) :
    (∃ file : Option Location, ((start.after past).openWanted options).2 = .ok file ∧
      (file.isSome ↔ options.toFile = true ∧ options.action ≠ "") ∧
      state.logger.handlers = { sink := .console options.console, level } ::
        file.toList.map (fun location => { sink := .file location, level := LogLevel.debug }) ∧
      ∀ record : LogRecord,
        (state.log record).written = state.written ++
          (if level ≤ record.level then [(options.console, record.line state.clock)] else []) ∧
        ∀ location, (state.log record).files.content location = state.files.content location ++
          (if file = some location ∧ LogLevel.debug ≤ record.level
            then encodeUtf8 (record.line state.clock) else [])) ∧
    ∀ earlier later, past ++ .configure options :: between = earlier ++ later →
      (start.after earlier).files.GrowsTo state.files := by
  have hlevel := LogLevel.debug_le_of_askedBy hasked
  obtain ⟨file, hopened, hconfigured⟩ :=
    writesTo_configure (LogLevel.ofValue_of_askedBy hasked) hdone
  have hwrites : state.WritesTo options.console level file := by
    rw [hstate, after_append, after_cons]
    exact writesTo_after hconfigured hbetween
  refine ⟨⟨file, hopened, ?_, ?_, ?_⟩, ?_⟩
  · rw [isSome_of_openWanted hopened, wantsFile, Bool.and_eq_true, Bool.not_eq_true',
      String.isEmpty_eq_false_iff]
  · rw [hwrites.logger, Logger.configured]
  · intro record
    refine ⟨?_, content_log hwrites hlevel record⟩
    rw [log_of_writesTo hwrites hlevel]
  · intro earlier later hsteps
    rw [hstate, hsteps, after_append]
    exact growsTo_after (start.after earlier) later

/-- A log is configured twice in the same second for the same file, the second time for another
console. The next record stands behind the first one in the file and is shown on the new console
only. -/
theorem delivered_once_to_reopened_file :
    let options : LogOptions := ⟨.str "debug", "render", true, "d", .named "a"⟩
    let again : LogOptions := { options with level := .str "wArning", console := .named "b" }
    let state := LogState.after {}
      [.configure options, .log ⟨LogLevel.debug, "one"⟩, .configure again]
    let later := state.log ⟨LogLevel.warning, "two"⟩
    later.written = [(.named "a", "01-01 00:00:00 [DEBG] one\n"),
      (.named "b", "01-01 00:00:00 [WARN] two\n")] ∧
    later.files.content [".", "d", "render", "render_0101000000.log"]
      = encodeUtf8 "01-01 00:00:00 [DEBG] one\n01-01 00:00:00 [WARN] two\n" := by
  intro options again state later
  let past : List LogStep := [.configure options, .log ⟨LogLevel.debug, "one"⟩]
  have hfile : ((LogState.after {} past).openWanted again).2.toOption
      = some (some [".", "d", "render", "render_0101000000.log"]) := by decide +kernel
  have hwritten : state.written = [(.named "a", "01-01 00:00:00 [DEBG] one\n")] := by
    decide +kernel
  have hheld : state.files.content [".", "d", "render", "render_0101000000.log"]
      = encodeUtf8 "01-01 00:00:00 [DEBG] one\n" := by decide +kernel
  have hclock : state.clock = .start := by decide +kernel
  have hstate : state = LogState.after {} (past ++ .configure again :: []) := rfl
  clear_value state
  have hasked : LogLevel.AskedBy again.level LogLevel.warning := .name (by decide)
  obtain ⟨⟨file, hopened, -, -, hrecord⟩, -⟩ :=
    delivered_once hasked (eq_ok_of_isOk (by decide +kernel)) (by simp) hstate
  rw [hopened] at hfile
  obtain rfl := Option.some.inj hfile
  obtain ⟨hwritten', hcontent⟩ := hrecord ⟨LogLevel.warning, "two"⟩
  have hline : LogRecord.line ⟨LogLevel.warning, "two"⟩ state.clock
      = "01-01 00:00:00 [WARN] two\n" := by
    rw [hclock]
    decide +kernel
  refine ⟨?_, ?_⟩
  · rw [hwritten', hwritten, hline]
    rfl
  · rw [hcontent, hheld, if_pos ⟨rfl, by decide⟩, hline]
    decide +kernel

end QueryTemplates
