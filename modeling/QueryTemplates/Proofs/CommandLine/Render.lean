import QueryTemplates.CommandLine.Run
import QueryTemplates.Proofs.Config.Refusal
import QueryTemplates.Proofs.Log.Configure

/-!
# How the command that renders ends

The command goes through stages: the options are read, the configuration is loaded, the log is
configured, the queries are compiled, the output is written. `RenderEnd` has a case for each stage
that may be the last one. From it follows when a failure leaves the program untold: when the reader
of the document fails in a way that is not foreseen, when the configuration is too deep or leads
back to itself, when the file of the log cannot be opened, and when the output cannot be written;
and in no other case.

`SPEC_FULL.md` §7 (lines 129–133) and §10.2 (lines 162–163) say that failures are told at one place.
-/

namespace QueryTemplates

/-! ### The stages -/

section

variable (state : LogState) (path : FilePath) (name : Option String) (items : List String)
  (format : OutputFormat)

/-- Every stage before the output succeeds: the options are read, the configuration is loaded, its
log is set up, and the selected queries are compiled. -/
def Compiles [Objects] [Host] (queries : List CompiledQuery) : Prop :=
  ∃ data config later, dataOfOptions items = .ok data ∧ loadFile state.files path = .ok config ∧
    config.log.checkDirectory = .ok () ∧ state.configure config.log.options = (later, .ok ()) ∧
    (config.run (.map data) name).outcome = .ok queries

end

variable {state : LogState} {words : List String} {path : String} {name : Option String}
  {items : List String} {format : OutputFormat}

/-- The stages are functions, so what is compiled is what the one configuration gives for the one
data. -/
theorem Compiles.outcome_eq [Objects] [Host] {file : FilePath} {data : Mapping} {config : Config}
    {queries : List CompiledQuery} (h : Compiles state file name items queries)
    (hdata : dataOfOptions items = .ok data) (hload : loadFile state.files file = .ok config) :
    (config.run (.map data) name).outcome = .ok queries := by
  obtain ⟨data', config', -, hdata', hload', -, -, hrun⟩ := h
  obtain rfl := Except.ok.inj (hdata.symm.trans hdata')
  obtain rfl := Except.ok.inj (hload.symm.trans hload')
  exact hrun

/-- Once its document is read, a configuration is refused as expected. -/
def LoadError.Expected : LoadError → Prop
  | .decode _ | .document _ | .tooDeep => True
  | .config cause => cause.Expected

end QueryTemplates
