import QueryTemplates.CommandLine.Options
import QueryTemplates.DataOptions
import QueryTemplates.File.Tree
import QueryTemplates.Output.Basic

/-!
# Commands

The program has three commands: one renders the templates of a configuration, one escapes a text
and one writes it as a term. Options of the program itself stand in front of the command.

Models `SPEC_FULL.md` §13 (lines 211–218).
-/

namespace QueryTemplates

/-- What the program is asked to do. -/
inductive Command where
  | render (name : Option String) (data : List String) (format : OutputFormat)
  | escape (text : String)
  | term (text : String)

/-- The part of the command line that a usage message is about. -/
inductive Scope where
  | program
  | render
  | escape
  | term
deriving DecidableEq

namespace Scope

/-- How the program is called. -/
def programName : String := "lucene-query"

/-- The scope as it is called. -/
def path : Scope → String
  | .program => programName
  | .render => programName ++ " render"
  | .escape => programName ++ " escape"
  | .term => programName ++ " term"

/-- The line that shows how to use the scope. -/
def usage (scope : Scope) : String :=
  "Usage: " ++ scope.path ++ (match scope with
    | .program => " [OPTIONS] COMMAND [ARGS]..."
    | .render => " [OPTIONS]"
    | .escape | .term => " [OPTIONS] TEXT")

end Scope

/-- Why a command line cannot be followed. -/
inductive UsageFault where
  | option (fault : OptionFault)
  | noCommand
  | unknownCommand (name : String)
  | missingText
  | extraArguments (arguments : List String)
  | unknownFormat (value : String)
  /-- The configuration is a directory. -/
  | directory (path : String)
  /-- The path of the configuration is one that no file can have. -/
  | noPath (cause : FileError)
  | data (cause : OptionError)

/-- A fault and the scope it lies in. -/
structure UsageError where
  scope : Scope
  fault : UsageFault

/-- The formats by name. -/
def formats : List (String × OutputFormat) := [("text", .text), ("json", .json)]

/-- The fault in words. -/
def UsageFault.message : UsageFault → String
  | .option (.unknown name) => "No such option " ++ quoted name ++ "."
  | .option (.needsValue name) => "Option " ++ quoted name ++ " requires an argument."
  | .option (.takesNoValue name) => "Option " ++ quoted name ++ " does not take a value."
  | .noCommand => "Missing command."
  | .unknownCommand name => "No such command " ++ quoted name ++ "."
  | .missingText => "Missing argument 'TEXT'."
  | .extraArguments arguments =>
    "Got unexpected extra argument" ++ (if arguments.length = 1 then "" else "s") ++ " ("
      ++ " ".intercalate arguments ++ ")"
  | .unknownFormat value =>
    "Invalid value for '--format': " ++ quoted value ++ " is not one of "
      ++ ", ".intercalate (formats.map fun (name, _) => quoted name) ++ "."
  | .directory path =>
    "Invalid value for '--config': File " ++ quoted path ++ " is a directory."
  | .noPath cause => cause.message
  | .data cause => "Invalid value for --data: " ++ cause.message

/-- The usage of the scope is shown with the fault, unless a value of an option is too many or too
few. -/
def UsageFault.showsUsage : UsageFault → Bool
  | .option (.needsValue _) | .option (.takesNoValue _) => false
  | _ => true

/-- The lines that tell a fault. -/
def UsageError.text (e : UsageError) : String :=
  (if e.fault.showsUsage then
    e.scope.usage ++ "\nTry '" ++ e.scope.path ++ " --help' for help.\n\n"
  else "")
    ++ "Error: " ++ e.fault.message ++ "\n"

/-- A command line read so far: a command, or the wish to see how a scope is used. -/
inductive Request (α : Type) where
  | help (scope : Scope)
  | proceed (content : α)

/-- The option that asks for help. -/
def helpForm : OptionForm := ⟨"--help", false⟩

/-- Reads the words of a scope. -/
def Scope.read (scope : Scope) (forms : List OptionForm) (mixed : Bool) (words : List String) :
    Except UsageError (Request ReadWords) := do
  let read ← (readWords (helpForm :: forms) mixed words).mapError fun fault =>
    ⟨scope, .option fault⟩
  if read.has helpForm.name then return .help scope
  return .proceed read

/-- The options of the program. -/
def programForms : List OptionForm := [⟨"--config", true⟩]

/-- The options of the command that renders. -/
def renderForms : List OptionForm := [⟨"--name", true⟩, ⟨"--data", true⟩, ⟨"--format", true⟩]

/-- The format of a name. -/
def readFormat (value : String) : Except UsageError OutputFormat :=
  match formats.lookup value with
  | some format => .ok format
  | none => .error ⟨.render, .unknownFormat value⟩

/-- The command that renders. -/
def readRender (words : List String) : Except UsageError (Request Command) := do
  match ← Scope.render.read renderForms true words with
  | .help scope => return .help scope
  | .proceed read =>
    let format ← readFormat ((read.last? "--format").getD "text")
    if !read.arguments.isEmpty then throw ⟨.render, .extraArguments read.arguments⟩
    return .proceed (.render (read.last? "--name") (read.values "--data") format)

/-- The one argument of a command. -/
def readText (scope : Scope) (words : List String) : Except UsageError (Request String) := do
  match ← scope.read [] true words with
  | .help scope => return .help scope
  | .proceed read =>
    match read.arguments with
    | [] => throw ⟨scope, .missingText⟩
    | [text] => return .proceed text
    | _ :: extra => throw ⟨scope, .extraArguments extra⟩

/-- A request with its content changed. -/
def Request.map (f : α → β) : Request α → Request β
  | .help scope => .help scope
  | .proceed content => .proceed (f content)

/-- The command that a name and the words behind it ask for; `none` if there is no such command. -/
def readCommand? (name : String) (words : List String) :
    Option (Except UsageError (Request Command)) :=
  match name with
  | "render" => some (readRender words)
  | "escape" => some ((readText .escape words).map (Request.map .escape))
  | "term" => some ((readText .term words).map (Request.map .term))
  | _ => none

end QueryTemplates
