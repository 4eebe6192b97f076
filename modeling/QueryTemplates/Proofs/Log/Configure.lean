import QueryTemplates.Log.Configure
import QueryTemplates.Proofs.File.Growth

/-!
# What a configuration makes of the log

A configuration finds the level that is asked for, opens the file of the action where one is wanted,
and then replaces the handlers of the logger. Whether or not it succeeds, it takes nothing away from
the files.

About `SPEC_FULL.md` §10.1 (lines 151–157).
-/

namespace QueryTemplates

/-! ### Levels -/

namespace LogLevel

/-- The names of levels as they are documented. -/
def named : List (String × Int) :=
  [("DEBUG", debug), ("INFO", info), ("WARNING", warning), ("ERROR", error),
    ("CRITICAL", critical)]

/-- What asks for a level: its name in any case, and for the usual level also nothing. -/
inductive AskedBy : Value → Int → Prop where
  | absent : AskedBy .null info
  | name {text : String} {level : Int} (hnamed : (upperCase text, level) ∈ named) :
      AskedBy (.str text) level

variable {name : String} {level : Int} {v : Value}

theorem ofCapitals_of_mem_named (h : (name, level) ∈ named) : ofCapitals name = .ok level := by
  simp only [named, List.mem_cons, Prod.mk.injEq, List.not_mem_nil, or_false] at h
  rcases h with ⟨rfl, rfl⟩ | ⟨rfl, rfl⟩ | ⟨rfl, rfl⟩ | ⟨rfl, rfl⟩ | ⟨rfl, rfl⟩ <;> rfl

theorem debug_le_of_mem_named (h : (name, level) ∈ named) : debug ≤ level := by
  have hall : ∀ entry ∈ named, debug ≤ entry.2 := by decide
  exact hall _ h

/-- A text that is not empty is looked up in capitals. -/
theorem ofValue_str {text : String} (htext : text ≠ "") :
    ofValue (.str text) = ofCapitals (upperCase text) := by
  have htruthy : (Value.str text).truthy = true := by
    show (!text.isEmpty) = true
    simpa using htext
  rw [ofValue, htruthy]
  rfl

/-- What asks for a level gives that level. -/
theorem ofValue_of_askedBy (h : AskedBy v level) : ofValue v = .ok level := by
  cases h with
  | absent => rfl
  | @name text _ hnamed =>
    have htext : text ≠ "" := by
      rintro rfl
      rw [upperCase_empty] at hnamed
      exact absurd (ofCapitals_of_mem_named hnamed) (by simp [named] at hnamed)
    rw [ofValue_str htext, ofCapitals_of_mem_named hnamed]

/-- No level that is asked for is below that of details. -/
theorem debug_le_of_askedBy (h : AskedBy v level) : debug ≤ level := by
  cases h with
  | absent => decide
  | name hnamed => exact debug_le_of_mem_named hnamed

end LogLevel

/-! ### The new logger and its file -/

/-- A logger for a console at a level and, where there is a file, for that file at the level of
details. -/
def Logger.configured (console : Console) (level : Int) (file : Option Location) : Logger where
  handlers := { sink := .console console, level } ::
    file.toList.map fun location => { sink := .file location, level := LogLevel.debug }
  level := min LogLevel.debug level
  propagate := false

namespace LogState

/-- The options want a file: one for an action that has a name. -/
def wantsFile (options : LogOptions) : Bool := options.toFile && !options.action.isEmpty

/-- Opens the file that the options want, if they want one; gives its location. -/
def openWanted (state : LogState) (options : LogOptions) :
    FileTree × Except FileError (Option Location) :=
  if wantsFile options then
    ((openActionFile state.files options state.clock).1,
      (openActionFile state.files options state.clock).2.map some)
  else (state.files, .ok none)

/-- A configuration replaces the logger once the level is known and the file is open. -/
theorem configure_eq (state : LogState) (options : LogOptions) :
    state.configure options =
      match LogLevel.ofValue options.level with
      | .error e => (state, .error e)
      | .ok level =>
        match state.openWanted options with
        | (files, .error e) => ({ state with files }, .error (.file e))
        | (files, .ok file) =>
          (({ state with files } : LogState).withLogger (.configured options.console level file),
            .ok ()) := by
  rw [configure]
  cases LogLevel.ofValue options.level with
  | error e => rfl
  | ok level =>
    rw [openWanted]
    cases hwants : wantsFile options with
    | false =>
      rw [wantsFile] at hwants
      simp only [hwants]
      rfl
    | true =>
      rw [wantsFile] at hwants
      simp only [hwants, if_true]
      rcases openActionFile state.files options state.clock with ⟨files, _ | location⟩ <;> rfl

variable {state after : LogState} {options : LogOptions}

/-- Making the directories of a file for an action changes no file, and then that file is opened. -/
theorem opens_openActionFile (files : FileTree) (options : LogOptions) (clock : Clock) :
    files.Opens (openActionFile files options clock).1
      (openActionFile files options clock).2.toOption := by
  rw [openActionFile]
  obtain ⟨directory, file⟩ := actionFile options clock
  have hsame := FileTree.sameFiles_ensureDirectories files directory
  rcases hmade : files.ensureDirectories directory with ⟨made, e | _⟩
  · rw [hmade] at hsame
    simp only [hmade]
    exact .of_sameFiles hsame
  · rw [hmade] at hsame
    cases hopened : made.openToAppend file with
    | error e =>
      simp only [hmade, hopened]
      exact .of_sameFiles hsame
    | ok opened =>
      simp only [hmade, hopened]
      exact (FileTree.opens_openToAppend hopened).trans_sameFiles hsame

/-- Of all files only the wanted one is opened, if there is one in the end. -/
theorem opens_openWanted (state : LogState) (options : LogOptions) :
    state.files.Opens (state.openWanted options).1 (state.openWanted options).2.toOption.join := by
  rw [openWanted]
  split
  · have hopens := opens_openActionFile state.files options state.clock
    cases hopened : (openActionFile state.files options state.clock).2 with
    | error e =>
      rw [hopened] at hopens
      exact hopens
    | ok location =>
      rw [hopened] at hopens
      exact hopens
  · exact .of_sameFiles (.refl state.files)

/-- There is a file exactly when one is wanted. -/
theorem isSome_of_openWanted {file : Option Location}
    (h : (state.openWanted options).2 = .ok file) :
    file.isSome = wantsFile options := by
  rw [openWanted] at h
  cases hwants : wantsFile options with
  | false =>
    rw [hwants] at h
    obtain rfl := Except.ok.inj h
    rfl
  | true =>
    rw [hwants, if_pos rfl] at h
    cases hopened : (openActionFile state.files options state.clock).2 with
    | error e =>
      rw [hopened] at h
      cases h
    | ok opened =>
      rw [hopened] at h
      obtain rfl := Except.ok.inj h
      rfl

theorem isFile_of_openWanted {location : Location}
    (h : (state.openWanted options).2 = .ok (some location)) :
    (state.openWanted options).1.IsFile location := by
  have hopens := opens_openWanted state options
  rw [h] at hopens
  exact hopens.isFile

/-- A configuration that succeeds finds a level and opens the wanted file, and all that changes are
the logger and the tree of files. -/
theorem configure_eq_ok (h : state.configure options = (after, .ok ())) :
    ∃ level file, LogLevel.ofValue options.level = .ok level ∧
      (state.openWanted options).2 = .ok file ∧
      after = ({ state with files := (state.openWanted options).1 } : LogState).withLogger
        (.configured options.console level file) := by
  rw [configure_eq] at h
  cases hlevel : LogLevel.ofValue options.level with
  | error e =>
    rw [hlevel] at h
    cases h
  | ok level =>
    rw [hlevel] at h
    rcases hopened : state.openWanted options with ⟨files, _ | file⟩
    · rw [hopened] at h
      cases h
    · rw [hopened] at h
      obtain ⟨rfl, -⟩ := Prod.mk.inj h
      exact ⟨level, file, rfl, rfl, rfl⟩

/-- A configuration takes nothing away from the files, even if it fails. -/
theorem growsTo_configure (state : LogState) (options : LogOptions) :
    state.files.GrowsTo (state.configure options).1.files := by
  have hgrown := (opens_openWanted state options).growsTo
  rw [configure_eq]
  cases LogLevel.ofValue options.level with
  | error e => exact FileTree.GrowsTo.refl state.files
  | ok level =>
    rcases hopened : state.openWanted options with ⟨files, _ | file⟩
    · rw [hopened] at hgrown
      exact hgrown
    · rw [hopened] at hgrown
      exact hgrown

end LogState

end QueryTemplates
