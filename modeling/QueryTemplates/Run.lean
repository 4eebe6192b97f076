import QueryTemplates.Config.Basic
import QueryTemplates.Log.Basic
import QueryTemplates.Output.Basic

/-!
# Runs over a configuration

A run compiles the templates of a configuration in their order, or only those of one name. The
data of the configuration lies below that of a template, and the data given for the run above both.
A run ends with its first failure. What it did is told in log records.

Models `SPEC_FULL.md` §12 (lines 205–209) and §13 (lines 213–215).
-/

namespace QueryTemplates

/-- Why a template gives no query. -/
inductive BuildError where
  /-- The data is no mapping. -/
  | data (cause : AccessError)
  | compile (cause : CompileError)

/-- The failure in words. -/
def BuildError.message : BuildError → String
  | .data cause => cause.message
  | .compile cause => cause.message

/-- The category of the failure. -/
def BuildError.category : BuildError → Category
  | .data cause => cause.category
  | .compile cause => cause.category

/-- The text of a template over a value; one that counts as false is no data. -/
def Template.buildFrom [Objects] (template : Template) (data : Value) :
    Except BuildError String := do
  let data ← if data.truthy then (data.entriesFor "items").mapError .data else pure []
  (template.build data).mapError .compile

/-- Why a run fails. -/
inductive RunError where
  | noTemplate (name : String)
  | build (cause : BuildError)

/-- The failure in words. -/
def RunError.message : RunError → String
  | .noTemplate name => "No query named " ++ quoted name
  | .build cause => cause.message

/-- The category of the failure. -/
def RunError.category : RunError → Category
  | .noTemplate _ => .badValue
  | .build cause => cause.category

/-- The log records of a run and what came of it. -/
structure Run (α : Type) where
  records : List LogRecord
  outcome : Except RunError α

/-- What a run does next: nothing after a failure. -/
def Run.andThen (run : Run α) (next : α → Run β) : Run β :=
  match run.outcome with
  | .error e => ⟨run.records, .error e⟩
  | .ok a => ⟨run.records ++ (next a).records, (next a).outcome⟩

namespace Config

/-- The templates of a name, or all. -/
def select (config : Config) : Option String → Except RunError (List Template)
  | none => .ok config.templates
  | some name =>
    match config.templates.filter (·.name == some name) with
    | [] => .error (.noTemplate name)
    | templates => .ok templates

/-- The data that a template gets in a run. `SPEC_FULL.md` §10.3 (lines 174–175). -/
def dataFor (config : Config) (template : Template) (data : Mapping) :
    Except CompileError Mapping :=
  match (Mapping.layer? config.data template.data).bind (Mapping.layer? · data) with
  | some merged => .ok merged
  | none => .error .endless

/-- The query of one template, which is the one of number `number` of `count`. -/
def runTemplate [Objects] (config : Config) (data : Value) (number count : Nat)
    (template : Template) :
    Run CompiledQuery :=
  let started : LogRecord :=
    ⟨LogLevel.debug, "Compiling query " ++ toString number ++ "/" ++ toString count ++ " name="
      ++ template.shownName⟩
  match data.entriesFor "items" with
  | .error cause => ⟨[started], .error (.build (.data cause))⟩
  | .ok entries =>
    match (config.dataFor template entries).bind template.build with
    | .error cause => ⟨[started], .error (.build (.compile cause))⟩
    | .ok query =>
      let finished : LogRecord :=
        ⟨LogLevel.debug, "Compiled query name=" ++ template.shownName ++ " query=" ++ query⟩
      ⟨[started, finished], .ok ⟨template.name, query⟩⟩

/-- The queries of templates, the first of which has the number `number`. -/
def runTemplates [Objects] (config : Config) (data : Value) (number count : Nat) :
    List Template → Run (List CompiledQuery)
  | [] => ⟨[], .ok []⟩
  | template :: rest =>
    (config.runTemplate data number count template).andThen fun compiled =>
      (config.runTemplates data (number + 1) count rest).andThen fun others =>
        ⟨[], .ok (compiled :: others)⟩

/-- The queries of all templates, or of those of one name. `SPEC_FULL.md` §13 (lines 213–215). -/
def run [Objects] (config : Config) (data : Value) (name : Option String) :
    Run (List CompiledQuery) :=
  match config.select name with
  | .error e => ⟨[], .error e⟩
  | .ok templates =>
    (config.runTemplates data 1 templates.length templates).andThen fun queries =>
      ⟨[⟨LogLevel.info, "Compiled " ++ toString queries.length ++ " queries"⟩], .ok queries⟩

end Config

end QueryTemplates
