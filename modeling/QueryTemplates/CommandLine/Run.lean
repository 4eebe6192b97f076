import QueryTemplates.CommandLine.Command
import QueryTemplates.Config.Load
import QueryTemplates.Log.Configure
import QueryTemplates.Run

/-!
# Running a command line

A command line is followed over a tree of files at a moment. What comes of it is an exit code, the
output, what was written to the console, and the files as they are then; or a failure that the
program does not turn into a message. Output is written only when everything has succeeded.

The commands are those of `SPEC_FULL.md` §13 (lines 213–219); where failures are told is said in
§7 (lines 129–133) and §10.2 (lines 159–163).
-/

namespace QueryTemplates

/-- What came of a command line. -/
structure Outcome where
  exitCode : Nat
  output : String
  /-- The console, the files and the logger afterwards. -/
  state : LogState
  /-- The category and message of a failure that left the program. -/
  escaped : Option (Category × String) := none

namespace Outcome

/-- The text of the console. -/
def console (outcome : Outcome) : String := outcome.state.textOn .standard

/-- The files that were not among those given. -/
def newFiles (outcome : Outcome) (given : List String) : List (String × List UInt8) :=
  outcome.state.files.files.filter fun (path, _) => !given.contains path

end Outcome

/-- Writes text to the console. -/
def LogState.tell [Host] (state : LogState) (text : String) : LogState :=
  state.write (Host.shown text) (.console .standard)

/-- A failure leaves the program. -/
def escapeWith (state : LogState) (category : Category) (message : String) : Outcome :=
  ⟨1, "", state, some (category, message)⟩

/-- Everything has succeeded, and the output is written with a line end, or refused as a whole. -/
def succeed [Host] (state : LogState) (output : String) : Outcome :=
  match Host.written output with
  | .ok text => ⟨0, text ++ "\n", state, none⟩
  | .error e => escapeWith state e.category e.message

/-- The command fails with a message. -/
def fail [Host] (state : LogState) (message : String) : Outcome :=
  ⟨1, "", state.tell ("Error: " ++ message ++ "\n"), none⟩

/-- The command is given up after a message in the log. -/
def giveUp [Host] (state : LogState) : Outcome := ⟨1, "", state.tell "Aborted!\n", none⟩

/-- The command line cannot be followed. A path that no file can have is told by no message. -/
def refuse [Host] (state : LogState) (e : UsageError) : Outcome :=
  match e.fault with
  | .noPath cause => escapeWith state cause.category cause.message
  | _ => ⟨2, "", state.tell e.text, none⟩

/-- Where the configuration is found unless a path is given. -/
def usualConfigPath : String := "config/queries.yml"

/-- A failure to load a configuration is told as a message, unless the document asks for something
that has no value. -/
def Category.isToldOnLoad : Category → Bool
  | .missingKey | .missingIndex | .missingAttribute | .overflow | .recursion | .option => false
  | _ => true

/-- The path of a configuration is one that a file can have, and no directory. -/
def checkConfigPath (files : FileTree) (path : String) : Except UsageError Unit :=
  if path.toList.contains '\x00' then .error ⟨.program, .noPath ⟨.nullByte, path⟩⟩
  else if !path.isEmpty && files.isDirectory (.ofText path) then
    .error ⟨.program, .directory path⟩
  else .ok ()

/-- The configuration in a file, or the category and the message of the failure. -/
def loadFile [Host] (files : FileTree) (path : FilePath) : Except (Category × String) Config := do
  let bytes ← (files.read path).mapError fun e => (e.category, e.message)
  (Config.load bytes).mapError fun e => (e.category, e.message)

/-- How a configuration wants its log to be written. -/
def LogSettings.options (settings : LogSettings) : LogOptions :=
  { level := .str settings.level
    action := "render"
    toFile := settings.toFile
    directory := settings.directory }

/-- The directory of the log has a name that a file can have, where one is wanted. -/
def LogSettings.checkDirectory [Host] (settings : LogSettings) : Except HostFailure Unit :=
  if settings.toFile then Host.checkName settings.directory else .ok ()

/-- Renders a configuration that was loaded. `SPEC_FULL.md` §13 (lines 213–215). -/
def renderConfig [Objects] [Host] (state : LogState) (config : Config) (name : Option String)
    (data : Mapping) (format : OutputFormat) : Outcome :=
  match config.log.checkDirectory with
  | .error e => escapeWith state e.category e.message
  | .ok () =>
    match state.configure config.log.options with
    | (state, .error e) => escapeWith state e.category e.message
    | (state, .ok ()) =>
      let run := config.run (.map data) name
      let state := state.logAll run.records
      match run.outcome with
      | .error e => giveUp (state.log ⟨LogLevel.error, "Render failed: " ++ e.message⟩)
      | .ok queries => succeed state (format.write queries)

/-- Follows a command. The options of a command are read before its configuration is. `SPEC_FULL.md`
§13 (lines 213–217). -/
def Command.run [Objects] [Host] (state : LogState) (configPath : String) : Command → Outcome
  | .escape text => succeed state (QueryTemplates.escape text)
  | .term text => succeed state (Fragment.term text)
  | .render name options format =>
    match dataOfOptions options with
    | .error e => refuse state ⟨.render, .data e⟩
    | .ok data =>
      let path := FilePath.ofText configPath
      match loadFile state.files path with
      | .error (category, message) =>
        if category.isToldOnLoad then
          fail state ("Invalid config " ++ path.text ++ ": " ++ message)
        else escapeWith state category message
      | .ok config => renderConfig state config name data format

/-- The options of the program in front of a command: the path of the configuration and the words
of the command. -/
def readProgram (files : FileTree) (words : List String) :
    Except UsageError (Request (String × List String)) := do
  match ← Scope.program.read programForms false words with
  | .help scope => return .help scope
  | .proceed read =>
    let path := (read.last? "--config").getD usualConfigPath
    checkConfigPath files path
    return .proceed (path, read.arguments)

/-- A word that names no command. One that looks like an option is read as one first. -/
def refuseCommand (files : FileTree) (name : String) (words : List String) :
    Except UsageError (Request (String × Command)) := do
  if name.startsWith "-" then
    match ← readProgram files (name :: words) with
    | .help scope => return .help scope
    | .proceed _ => throw ⟨.program, .unknownCommand name⟩
  else throw ⟨.program, .unknownCommand name⟩

/-- The path of the configuration and the command that words ask for. -/
def readCommandLine (files : FileTree) (words : List String) :
    Except UsageError (Request (String × Command)) := do
  match ← readProgram files words with
  | .help scope => return .help scope
  | .proceed (_, []) => throw ⟨.program, .noCommand⟩
  | .proceed (path, name :: words) =>
    match readCommand? name words with
    | none => refuseCommand files name words
    | some read => return (← read).map (path, ·)

/-- The paths that following a command line looks at, as far as `files` shows them: that of the
configuration, and that of the log file once the configuration is known. -/
def pathsLookedAt [Host] (files : FileTree) (clock : Clock) (words : List String) : List FilePath :=
  match readProgram files words with
  | .ok (.proceed (path, _)) =>
    let path := FilePath.ofText path
    match loadFile files path with
    | .ok config =>
      if config.log.toFile then [path, (LogState.actionFile config.log.options clock).2] else [path]
    | .error _ => [path]
  | _ => []

/-- Follows the words of a command line. A wish for help is answered by the usage. -/
def runCommandLine [Objects] [Host] (state : LogState) (words : List String) : Outcome :=
  match readCommandLine state.files words with
    | .error e => refuse state e
    | .ok (.help scope) => succeed state scope.usage
    | .ok (.proceed (path, command)) => command.run state path

end QueryTemplates
