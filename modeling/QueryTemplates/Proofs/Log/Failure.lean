import QueryTemplates.Proofs.Log.Delivery

/-!
# A configuration that fails is not noticed

A configuration that fails changes nothing but the tree of files, and there it can only leave
directories. The handlers stay open, since only a configuration that succeeds closes them. A record
goes where the logger says and into files that are there, so directories make no difference to it.
They can only be noticed by a later configuration that opens a file below one of them, or finds one
of them where its file should be.

`SPEC_FULL.md` §10.1 (lines 151–157) describes the log and its files.
-/

namespace QueryTemplates

namespace LogState

variable {state other failed : LogState} {options : LogOptions}

/-! ### Open handlers -/

/-- The handlers of the logger are open, and those that it gave up are closed. -/
structure KeepsOpen (state : LogState) : Prop where
  current : ∀ handler ∈ state.logger.handlers, handler.isOpen = true
  former : ∀ handler ∈ state.former, handler.isOpen = false

/-- A log that was never configured has no handlers at all. -/
theorem keepsOpen_initial {clock : Clock} {files : FileTree} : KeepsOpen { clock, files } :=
  ⟨by simp, by simp⟩

/-- A new logger with open handlers leaves the former ones closed. -/
theorem KeepsOpen.withLogger (h : state.KeepsOpen) {logger : Logger}
    (hopen : ∀ handler ∈ logger.handlers, handler.isOpen = true) :
    (state.withLogger logger).KeepsOpen := by
  refine ⟨hopen, ?_⟩
  intro handler hhandler
  rcases List.mem_append.mp hhandler with hformer | hclosed
  · exact h.former handler hformer
  · obtain ⟨given, -, rfl⟩ := List.mem_map.mp hclosed
    rfl

/-- Both handlers of a configuration are new. -/
theorem isOpen_of_mem_configured {console : Console} {level : Int} {file : Option Location} :
    ∀ handler ∈ (Logger.configured console level file).handlers, handler.isOpen = true := by
  intro handler hhandler
  rcases List.mem_cons.mp hhandler with rfl | hfile
  · rfl
  · obtain ⟨location, -, rfl⟩ := List.mem_map.mp hfile
    rfl

/-- Writing is no matter of handlers. -/
theorem KeepsOpen.log (h : state.KeepsOpen) (record : LogRecord) :
    (state.log record).KeepsOpen := by
  refine log_preserves (motive := KeepsOpen) ?_ h record
  rintro later text (console | location) h
  · exact ⟨h.current, h.former⟩
  · exact ⟨h.current, h.former⟩

/-- No step leaves the logger with a handler that is closed. -/
theorem KeepsOpen.step (h : state.KeepsOpen) (step : LogStep) : (state.step step).KeepsOpen := by
  cases step with
  | clock moment => exact ⟨h.current, h.former⟩
  | log record => exact h.log record
  | configure options =>
    rw [LogState.step, configure_eq]
    cases LogLevel.ofValue options.level with
    | error e => exact h
    | ok level =>
      rcases state.openWanted options with ⟨files, cause | file⟩
      · exact ⟨h.current, h.former⟩
      · have hopened : KeepsOpen { state with files } := ⟨h.current, h.former⟩
        exact hopened.withLogger isOpen_of_mem_configured

/-- Whatever happens, the handlers of the logger are open. -/
theorem KeepsOpen.after (h : state.KeepsOpen) (steps : List LogStep) :
    (state.after steps).KeepsOpen := by
  induction steps generalizing state with
  | nil => exact h
  | cons first rest ih => exact ih (h.step first)

/-! ### States that only differ in directories -/

/-- The clock, the logger, the handlers that it gave up and what was written agree, and so do the
files; the directories may be others. -/
structure Alike (state other : LogState) : Prop where
  clock : state.clock = other.clock
  logger : state.logger = other.logger
  former : state.former = other.former
  written : state.written = other.written
  files : state.files.SameFiles other.files

namespace Alike

theorem refl (state : LogState) : state.Alike state := ⟨rfl, rfl, rfl, rfl, .refl _⟩

/-- States that are alike and have the same directories are the same. -/
theorem eq_of_files (h : state.Alike other) (hfiles : state.files = other.files) :
    state = other := by
  cases state
  cases other
  obtain ⟨rfl, rfl, rfl, rfl, -⟩ := h
  obtain rfl := hfiles
  rfl

/-- Text is written alike, whatever the directories are. -/
theorem write (h : state.Alike other) (text : String) (sink : Sink) :
    (state.write text sink).Alike (other.write text sink) := by
  cases sink with
  | console console =>
    exact ⟨h.clock, h.logger, h.former, congrArg (· ++ [(console, text)]) h.written, h.files⟩
  | file location => exact ⟨h.clock, h.logger, h.former, h.written, h.files.append location text⟩

theorem handle (h : state.Alike other) (record : LogRecord) (handler : LogHandler) :
    (state.handle record handler).Alike (other.handle record handler) := by
  rw [LogState.handle, LogState.handle, h.clock]
  split
  · exact h.write _ _
  · exact h

theorem handleAll (h : state.Alike other) (record : LogRecord) (handlers : List LogHandler) :
    (handlers.foldl (LogState.handle record) state).Alike
      (handlers.foldl (LogState.handle record) other) := by
  induction handlers generalizing state other with
  | nil => exact h
  | cons handler rest ih => exact ih (h.handle record handler)

/-- A record is delivered alike. -/
theorem log (h : state.Alike other) (record : LogRecord) :
    (state.log record).Alike (other.log record) := by
  rw [LogState.log, LogState.log, h.logger]
  split
  · exact h
  · split
    · split
      · exact h
      · exact h.write _ _
    · exact h.handleAll record _

/-- A new logger is the same in both, and so are the handlers that are given up for it. -/
theorem withLogger (h : state.Alike other) (logger : Logger) :
    (state.withLogger logger).Alike (other.withLogger logger) := by
  refine ⟨h.clock, rfl, ?_, h.written, h.files⟩
  rw [LogState.withLogger, LogState.withLogger, h.former, h.logger]

/-- A configuration does the same to both when it opens the same file in both, or none. One whose
level is refused opens none. -/
theorem configure (h : state.Alike other)
    (hopened : ∀ level, LogLevel.ofValue options.level = .ok level →
      (state.openWanted options).2.toOption = (other.openWanted options).2.toOption) :
    (state.configure options).1.Alike (other.configure options).1 := by
  rw [configure_eq, configure_eq]
  cases hlevel : LogLevel.ofValue options.level with
  | error e => exact h
  | ok level =>
    have hopened := hopened level hlevel
    have hopens := opens_openWanted state options
    have hopens' := opens_openWanted other options
    rw [← hopened] at hopens'
    have hfiles := hopens.sameFiles_of_sameFiles hopens' h.files
    rcases hstate : state.openWanted options with ⟨files, e | file⟩
    · rcases hother : other.openWanted options with ⟨files', e' | file'⟩
      · rw [hstate, hother] at hfiles
        exact ⟨h.clock, h.logger, h.former, h.written, hfiles⟩
      · rw [hstate, hother] at hopened
        cases hopened
    · rcases hother : other.openWanted options with ⟨files', e' | file'⟩
      · rw [hstate, hother] at hopened
        cases hopened
      · rw [hstate, hother] at hopened hfiles
        obtain rfl := Option.some.inj hopened
        have hfound : Alike { state with files } { other with files := files' } :=
          ⟨h.clock, h.logger, h.former, h.written, hfiles⟩
        exact hfound.withLogger _

end Alike

/-! ### Whatever happens later -/

/-- Each later configuration whose level is one opens the same file from both states, or none from
either. One whose level is refused does not come to open any. -/
def OpensAlike : LogState → LogState → List LogStep → Prop
  | _, _, [] => True
  | state, other, step :: rest =>
    (∀ options level, step = .configure options → LogLevel.ofValue options.level = .ok level →
      (state.openWanted options).2.toOption = (other.openWanted options).2.toOption) ∧
    OpensAlike (state.step step) (other.step step) rest

/-- There is nothing to open without a configuration. -/
theorem opensAlike_of_not_configure {steps : List LogStep}
    (h : ∀ step ∈ steps, step.isConfigure = false) : OpensAlike state other steps := by
  induction steps generalizing state other with
  | nil => trivial
  | cons first rest ih =>
    obtain ⟨hfirst, hrest⟩ := List.forall_mem_cons.mp h
    refine ⟨?_, ih hrest⟩
    rintro options level rfl
    cases hfirst

/-- States that are alike stay so as long as later configurations open the same files. -/
theorem Alike.after (h : state.Alike other) {steps : List LogStep}
    (hopens : OpensAlike state other steps) : (state.after steps).Alike (other.after steps) := by
  induction steps generalizing state other with
  | nil => exact h
  | cons first rest ih =>
    obtain ⟨hfirst, hrest⟩ := hopens
    refine ih ?_ hrest
    cases first with
    | clock moment => exact ⟨rfl, h.logger, h.former, h.written, h.files⟩
    | configure options => exact h.configure fun level => hfirst options level rfl
    | log record => exact h.log record

/-- A configuration that fails leaves at most directories, and these only if it failed at a file. -/
theorem alike_of_configure_eq_error {e : LogError}
    (h : state.configure options = (failed, .error e)) :
    state.Alike failed ∧ ((∀ cause, e ≠ .file cause) → failed = state) := by
  rw [configure_eq] at h
  cases hlevel : LogLevel.ofValue options.level with
  | error e' =>
    rw [hlevel] at h
    obtain ⟨rfl, -⟩ := Prod.mk.inj h
    exact ⟨.refl state, fun _ => rfl⟩
  | ok level =>
    rw [hlevel] at h
    rcases hopened : state.openWanted options with ⟨files, cause | file⟩
    · rw [hopened] at h
      obtain ⟨rfl, he⟩ := Prod.mk.inj h
      have hopens := opens_openWanted state options
      rw [hopened] at hopens
      refine ⟨⟨rfl, rfl, rfl, rfl, hopens.sameFiles⟩, ?_⟩
      intro hnot
      exact absurd (Except.error.inj he).symm (hnot cause)
    · rw [hopened] at h
      cases (Prod.mk.inj h).2

end LogState

open LogState

/-- Whatever state a log is in, a configuration of it that fails leaves the logger with its
handlers, their levels and its own, what was written, and every file with what it holds; if it did
not fail at a file, or made no directory, it leaves everything. Handlers that were open before stay
open, and they are in every state that a log comes to. Whatever happens later, all records are
delivered as if it had not been tried, as long as no other configuration comes, and also beyond, as
long as every later configuration opens the file that it would have opened otherwise, or none as
otherwise. -/
theorem failed_configuration_unnoticed {state failed : LogState} {options : LogOptions}
    {e : LogError} (hfailed : state.configure options = (failed, .error e)) :
    failed.logger = state.logger ∧ failed.former = state.former ∧
    (∀ start past, KeepsOpen start → state = start.after past →
      ∀ handler ∈ failed.logger.handlers, handler.isOpen = true) ∧
    failed.clock = state.clock ∧ failed.written = state.written ∧
    state.files.SameFiles failed.files ∧
    ((∀ cause, e ≠ .file cause) ∨ failed.files = state.files → failed = state) ∧
    (∀ later : List LogStep, (∀ step ∈ later, step.isConfigure = false) →
      (state.after later).Alike (failed.after later)) ∧
    ∀ later : List LogStep, OpensAlike state failed later →
      (state.after later).Alike (failed.after later) := by
  obtain ⟨halike, hsame⟩ := alike_of_configure_eq_error hfailed
  refine ⟨halike.logger.symm, halike.former.symm, ?_, halike.clock.symm, halike.written.symm,
    halike.files, ?_, ?_, ?_⟩
  · rintro start past hstart rfl
    rw [← halike.logger]
    exact (hstart.after past).current
  · rintro (hcause | hfiles)
    · exact hsame hcause
    · exact (halike.eq_of_files hfiles.symm).symm
  · intro later hlater
    exact halike.after (opensAlike_of_not_configure hlater)
  · intro later hopens
    exact halike.after hopens

/-- The file of a log stands where the directory for the next one should be. The logger goes on with
that file, and a later configuration for it goes on with it as well. -/
theorem failed_configuration_unnoticed_at_own_file :
    let options (directory : String) : LogOptions :=
      ⟨.str "debug", "render", true, directory, .standard⟩
    let state := LogState.after {} [.configure (options "d"), .log ⟨LogLevel.debug, "one"⟩]
    let failed := (state.configure (options "d/render/render_0101000000.log")).1
    let later : List LogStep := [.configure (options "d"), .log ⟨LogLevel.debug, "two"⟩]
    failed.logger = state.logger ∧
    (∀ handler ∈ failed.logger.handlers, handler.isOpen = true) ∧
    (failed.after later).files.content [".", "d", "render", "render_0101000000.log"]
      = encodeUtf8 "01-01 00:00:00 [DEBG] one\n01-01 00:00:00 [DEBG] two\n" := by
  intro options state failed later
  have hrefused : (state.configure (options "d/render/render_0101000000.log")).2.isOk
      = false := by decide +kernel
  obtain ⟨e, he⟩ := exists_eq_error_of_isOk hrefused
  have hopens : OpensAlike state failed later := by
    refine ⟨?_, ?_, trivial⟩
    · intro again level hstep _
      obtain rfl : options "d" = again := LogStep.configure.inj hstep
      decide +kernel
    · intro again level hstep
      exact absurd (congrArg LogStep.isConfigure hstep) Bool.false_ne_true
  have hheld : (state.after later).files.content [".", "d", "render", "render_0101000000.log"]
      = encodeUtf8 "01-01 00:00:00 [DEBG] one\n01-01 00:00:00 [DEBG] two\n" := by decide +kernel
  have hfailed : (state.configure (options "d/render/render_0101000000.log")).1 = failed := rfl
  clear_value failed
  obtain ⟨hlogger, -, hopen, -, -, -, -, -, hlater⟩ :=
    failed_configuration_unnoticed (Prod.ext hfailed he)
  refine ⟨hlogger, hopen {} _ keepsOpen_initial rfl, ?_⟩
  rw [← (hlater later hopens).files.content_eq, hheld]

/-- Directories that a failed configuration leaves let a later one open a file that it could not
open otherwise, and so the next record is missing in the file where it would stand. -/
theorem left_directories_noticed :
    let options (action directory : String) : LogOptions :=
      ⟨.str "info", action, true, directory, .standard⟩
    let state := LogState.after {} [.configure (options "f" ".")]
    let failing := options "q" "a/a/a/../../../f/f_0101000000.log"
    let later : List LogStep := [.configure (options "a/a" "."), .log ⟨LogLevel.info, "m"⟩]
    (state.configure failing).2.isOk = false ∧
      (state.after later).files.content [".", "f", "f_0101000000.log"]
        = encodeUtf8 "01-01 00:00:00 [INFO] m\n" ∧
      (state.after (.configure failing :: later)).files.content [".", "f", "f_0101000000.log"]
        = [] := by
  refine ⟨by decide +kernel, by decide +kernel, by decide +kernel⟩

end QueryTemplates
