import QueryTemplates.Template

/-!
# Configurations

A configuration holds settings of the log, data for all templates, and the templates. Reading one
looks at the shapes of all its parts first, in the order log, data, queries, and then checks the
contents in the same order.

Models `SPEC_FULL.md` §10.3 (lines 165–178).
-/

namespace QueryTemplates

/-- The levels a configuration may ask for, in the order of their names. -/
def levelNames : List String := ["CRITICAL", "DEBUG", "ERROR", "INFO", "WARNING"]

/-- Settings of the log. -/
structure LogSettings where
  level : String := "INFO"
  toFile : Bool := false
  directory : String := "log"
deriving DecidableEq

/-- A configuration. -/
structure Config where
  log : LogSettings
  data : Mapping
  templates : List Template

/-- Why a value is no configuration. -/
inductive ConfigError where
  | read (cause : ReadError)
  /-- The configuration is no mapping. -/
  | noMapping
  | unknownLevel
  | blankDirectory
  | noTemplates
  | repeatedName (name : String)

/-- The refusal in words. -/
def ConfigError.message : ConfigError → String
  | .read cause => cause.message
  | .noMapping => "Config root must be a mapping/object"
  | .unknownLevel => "log.level must be one of " ++ listLiteral levelNames
  | .blankDirectory => "log.dir must not be empty"
  | .noTemplates => "queries must include at least one query"
  | .repeatedName name => "queries has duplicate NAME: " ++ name

/-- The category of the refusal. -/
def ConfigError.category : ConfigError → Category
  | .read cause => cause.category
  | _ => .badValue

namespace LogSettings

/-- The value at a key of the section, or a default. -/
private def setting (entries : Mapping) (name : String) (default : Value) : Value :=
  (Mapping.get? entries (.str name)).getD default

/-- The settings in the `log` section. A level is read in any case. -/
def read (raw : Value) : Except ReadError LogSettings := do
  let place : Place := ⟨"log", []⟩
  let entries ← readSection raw (.str "log") false
  let usual : LogSettings := {}
  let level ← expectText (place.key "level") (setting entries "level" (.str usual.level))
  let toFile ← expectBool (place.key "to_file") (setting entries "to_file" (.bool usual.toFile))
  let directory ← expectText (place.key "dir") (setting entries "dir" (.str usual.directory))
  return ⟨upperCase level, toFile, directory⟩

/-- The level is a known one and the directory has a name. -/
def check (settings : LogSettings) : Except ConfigError Unit := do
  if !levelNames.contains settings.level then throw .unknownLevel
  if (stripBlank settings.directory.toList).isEmpty then throw .blankDirectory

end LogSettings

namespace Config

/-- The templates that items describe, the first of which has the number `index`. -/
def readTemplates (index : Nat) : List Value → Except ReadError (List Template)
  | [] => .ok []
  | item :: rest => do
    let template ← Template.parse ⟨"queries", [.index index]⟩ item
    return template :: (← readTemplates (index + 1) rest)

/-- The first name that was there before. -/
def firstRepeated? (seen : List String) : List (Option String) → Option String
  | [] => none
  | none :: rest => firstRepeated? seen rest
  | some name :: rest =>
    if seen.contains name then some name else firstRepeated? (name :: seen) rest

/-- There are templates, and no two have one name. -/
def checkTemplates (templates : List Template) : Except ConfigError Unit :=
  if templates.isEmpty then .error .noTemplates
  else match firstRepeated? [] (templates.map Template.name) with
    | some name => .error (.repeatedName name)
    | none => .ok ()

/-- A configuration whose parts have the right shapes. -/
def readParts (raw : Value) : Except ReadError Config := do
  let log ← LogSettings.read raw
  let data ← readSection raw (.str "data") false
  match ← section? raw (.str "queries") with
  | none => throw (.missing ⟨"queries", []⟩)
  | some v =>
    let items ← expectList ⟨"queries", []⟩ v
    return ⟨log, data, ← readTemplates 0 items⟩

/-- The configuration that a value describes. `SPEC_FULL.md` §10.3 (lines 168–173). -/
def parse (raw : Value) : Except ConfigError Config := do
  let config ← (readParts raw).mapError .read
  config.log.check
  checkTemplates config.templates
  return config

end Config

end QueryTemplates
