import QueryTemplates.Calendar
import QueryTemplates.File.Tree

/-!
# The log

A logger has handlers, each with a level and a sink, and a level of its own. A record that reaches
the level of the logger is written once to every sink whose handler it reaches. Without any handler
records are shown bare on the standard console, if they are warnings at least.

The layout of records and their files are those of `SPEC_FULL.md` §10.1 (lines 151–157).
-/

namespace QueryTemplates

/-- A moment within a year. -/
structure Clock where
  month : Nat
  day : Nat
  hour : Nat
  minute : Nat
  second : Nat
deriving DecidableEq

namespace Clock

/-- The first second of a year. -/
def start : Clock := ⟨1, 1, 0, 0, 0⟩

/-- The moment as ten digits. -/
def stamp (clock : Clock) : String :=
  String.join
    ([clock.month, clock.day, clock.hour, clock.minute, clock.second].map (zeroFilled 2))

/-- The moment as a date and a time. -/
def text (clock : Clock) : String :=
  zeroFilled 2 clock.month ++ "-" ++ zeroFilled 2 clock.day ++ " " ++ zeroFilled 2 clock.hour ++ ":"
    ++ zeroFilled 2 clock.minute ++ ":" ++ zeroFilled 2 clock.second

end Clock

namespace LogLevel

/-- Details for finding faults. -/
def debug : Int := 10

/-- What a run does. -/
def info : Int := 20

/-- What may be a fault. -/
def warning : Int := 30

/-- A fault. -/
def error : Int := 40

/-- A fault that ends the run. -/
def critical : Int := 50

/-- Four letters for a level. -/
def abbreviation (level : Int) : String :=
  if level = debug then "DEBG"
  else if level = info then "INFO"
  else if level = warning then "WARN"
  else if level = error ∨ level = critical then "ERRO"
  else if level = 0 then "NOTS"
  else "Leve"

end LogLevel

/-- What is logged. -/
structure LogRecord where
  level : Int
  message : String
deriving DecidableEq

/-- The line of a record. `SPEC_FULL.md` §10.1 (line 155). -/
def LogRecord.line (record : LogRecord) (clock : Clock) : String :=
  clock.text ++ " [" ++ LogLevel.abbreviation record.level ++ "] " ++ record.message ++ "\n"

/-- A console: the standard one or another one by name. -/
inductive Console where
  | standard
  | named (name : String)
deriving DecidableEq

/-- Where records are written to. -/
inductive Sink where
  | console (console : Console)
  | file (location : Location)
deriving DecidableEq

/-- A sink and the level that a record must reach. -/
structure LogHandler where
  sink : Sink
  level : Int
  /-- The handler was not closed. One that was opens its file again when it is written to. -/
  isOpen : Bool := true
deriving DecidableEq

/-- The handler is given up. -/
def LogHandler.close (handler : LogHandler) : LogHandler := { handler with isOpen := false }

/-- Handlers in their order, the level of the logger, and whether its records are passed on. -/
structure Logger where
  handlers : List LogHandler := []
  level : Int := 0
  propagate : Bool := true
deriving DecidableEq

/-- The level that a record must reach; a logger without a level takes warnings. -/
def Logger.threshold (logger : Logger) : Int :=
  if logger.level = 0 then LogLevel.warning else logger.level

/-- A logger at a moment, the handlers that it gave up, the files, and what was written to
consoles. -/
structure LogState where
  clock : Clock := .start
  logger : Logger := {}
  former : List LogHandler := []
  files : FileTree := .empty
  written : List (Console × String) := []

namespace LogState

/-- Writes text to a sink. -/
def write (state : LogState) (text : String) : Sink → LogState
  | .console console => { state with written := state.written ++ [(console, text)] }
  | .file location => { state with files := state.files.append location text }

/-- Writes a record to the sink of a handler if it reaches the level. -/
def handle (record : LogRecord) (state : LogState) (handler : LogHandler) : LogState :=
  if handler.level ≤ record.level then state.write (record.line state.clock) handler.sink
  else state

/-- Logs a record. -/
def log (state : LogState) (record : LogRecord) : LogState :=
  if record.level < state.logger.threshold then state
  else if state.logger.handlers.isEmpty then
    if record.level < LogLevel.warning then state
    else state.write (record.message ++ "\n") (.console .standard)
  else state.logger.handlers.foldl (handle record) state

/-- Logs records one after the other. -/
def logAll (state : LogState) (records : List LogRecord) : LogState := records.foldl log state

/-- What was written to a console. -/
def textOn (state : LogState) (console : Console) : String :=
  String.join ((state.written.filter (·.1 == console)).map (·.2))

/-- The state with nothing written yet. -/
def fresh (state : LogState) : LogState := { state with written := [] }

end LogState

end QueryTemplates
