import QueryTemplates.Log.Basic
import QueryTemplates.Text.Uppercase
import QueryTemplates.Value.Access

/-!
# Configuring the log

A configuration replaces the handlers of the logger: one for a console at the level asked for and,
where an action is to be logged to a file, one for a file of that action at the level of details.
The new handlers are made before the old ones are closed, so a failure leaves the logger as it was.

What can be asked of the log is said in `SPEC_FULL.md` §10.1 (lines 151–157).
-/

namespace QueryTemplates

/-- How a log is to be written. -/
structure LogOptions where
  level : Value := .null
  action : String := ""
  toFile : Bool := false
  directory : String := ""
  console : Console := .standard

/-- Why a log cannot be configured. -/
inductive LogError where
  | file (cause : FileError)
  /-- The level is no text and has no capitals. -/
  | noCapitals (kind : Kind)
  /-- The level has capitals but is no text. -/
  | noName (kind : Kind)
  /-- The name belongs to a layout of records. -/
  | unknownLevel (name : String)
  /-- The name belongs to the table of layouts. -/
  | noLevel (literal : String)

/-- The failure in words. -/
def LogError.message : LogError → String
  | .file cause => cause.message
  | .noCapitals kind => (AccessError.noAttribute kind "upper").message
  | .noName kind => "attribute name must be string, not '" ++ kind.longName ++ "'"
  | .unknownLevel name => "Unknown level: " ++ quoted name
  | .noLevel literal => "Level not an integer or a valid string: " ++ literal

/-- The category of the failure. -/
def LogError.category : LogError → Category
  | .file cause => cause.category
  | .noCapitals _ => .missingAttribute
  | .noName _ => .wrongType
  | .unknownLevel _ => .badValue
  | .noLevel _ => .wrongType

/-- The usual layout of records in the three notations for parts of a record. -/
def recordLayouts : List (String × String × String) :=
  [("%", "PercentStyle", "%(levelname)s:%(name)s:%(message)s"),
    ("\x7b", "StrFormatStyle", "\x7blevelname\x7d:\x7bname\x7d:\x7bmessage\x7d"),
    ("$", "StringTemplateStyle", "$\x7blevelname\x7d:$\x7bname\x7d:$\x7bmessage\x7d")]

/-- The table of layouts as an expression. -/
def recordLayoutsLiteral : String :=
  let entry : String × String × String → String := fun (mark, style, layout) =>
    quoted mark ++ ": (<class 'logging." ++ style ++ "'>, " ++ quoted layout ++ ")"
  "\x7b" ++ ", ".intercalate (recordLayouts.map entry) ++ "\x7d"

/-- The level of a name in capitals; a name that means nothing is the usual level. Two names mean
something other than a level. -/
def LogLevel.ofCapitals : String → Except LogError Int
  | "CRITICAL" | "FATAL" => .ok critical
  | "ERROR" => .ok error
  | "WARNING" | "WARN" => .ok warning
  | "INFO" => .ok info
  | "DEBUG" => .ok debug
  | "NOTSET" => .ok 0
  | "BASIC_FORMAT" => .error (.unknownLevel "%(levelname)s:%(name)s:%(message)s")
  | "_STYLES" => .error (.noLevel recordLayoutsLiteral)
  | _ => .ok info

/-- The level that a value asks for; one that counts as false asks for the usual level. -/
def LogLevel.ofValue (v : Value) : Except LogError Int :=
  if !v.truthy then .ok info
  else match v with
    | .str name => ofCapitals (upperCase name)
    | .bytes _ => .error (.noName .bytes)
    | v => .error (.noCapitals v.kind)

namespace LogState

/-- The directory and the name of the file for an action at a moment. -/
def actionFile (options : LogOptions) (clock : Clock) : FilePath × FilePath :=
  let directory := if options.directory.isEmpty then "log" else options.directory
  let directory := (FilePath.ofText directory).append (.ofText options.action)
  (directory, (directory.append (.ofText (options.action ++ "_" ++ clock.stamp ++ ".log"))).settled)

/-- Opens the file for an action; the directories that were made for it stay if that fails. -/
def openActionFile (files : FileTree) (options : LogOptions) (clock : Clock) :
    FileTree × Except FileError Location :=
  let (directory, file) := actionFile options clock
  match files.ensureDirectories directory with
  | (files, .error e) => (files, .error e)
  | (files, .ok ()) =>
    match files.openToAppend file with
    | .error e => (files, .error e)
    | .ok (files, location) => (files, .ok location)

/-- The state with another logger in place of the one before, whose handlers are closed. -/
def withLogger (state : LogState) (logger : Logger) : LogState :=
  { state with logger, former := state.former ++ state.logger.handlers.map LogHandler.close }

/-- The state with the handlers that the options ask for. `SPEC_FULL.md` §10.1 (lines 152–156). -/
def configure (state : LogState) (options : LogOptions) : LogState × Except LogError Unit :=
  match LogLevel.ofValue options.level with
  | .error e => (state, .error e)
  | .ok level =>
    let console : LogHandler := { sink := .console options.console, level }
    let logger (handlers : List LogHandler) : Logger :=
      { handlers, level := min LogLevel.debug level, propagate := false }
    if options.toFile && !options.action.isEmpty then
      match openActionFile state.files options state.clock with
      | (files, .error e) => ({ state with files }, .error (.file e))
      | (files, .ok location) =>
        let file : LogHandler := { sink := .file location, level := LogLevel.debug }
        (({ state with files } : LogState).withLogger (logger [console, file]), .ok ())
    else (state.withLogger (logger [console]), .ok ())

end LogState

end QueryTemplates
