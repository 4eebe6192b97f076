import QueryTemplates.Proofs.Config.Names
import QueryTemplates.Proofs.Query.Reading
import QueryTemplates.Run

/-!
# Runs query by query

The templates of a configuration have nothing to do with each other in a run. What comes of one is
what comes of it when it is the only template, and the run puts the outcomes together in the order
of the templates up to the first failure. A name selects one template and hides all others.

About `SPEC_FULL.md` §13 (lines 213–215).
-/

namespace QueryTemplates

theorem Run.outcome_andThen {α β : Type} (run : Run α) (next : α → Run β) :
    (run.andThen next).outcome = run.outcome >>= fun a => (next a).outcome := by
  rw [Run.andThen]
  cases run.outcome <;> rfl

namespace Config

/-- The configuration with one template only. -/
def alone (config : Config) (template : Template) : Config :=
  { config with templates := [template] }

/-- What comes of a template in a run. -/
def outcomeOf [Objects] (config : Config) (data : Value) (template : Template) :
    Except RunError CompiledQuery := do
  let entries ← (data.entriesFor "items").mapError fun cause => .build (.data cause)
  let query ← ((config.dataFor template entries).bind template.build).mapError
    fun cause => .build (.compile cause)
  return ⟨template.name, query⟩

section

variable {config : Config} {data : Value} {template : Template}

/-- The place of a template among the others is told in the log and nowhere else. -/
theorem outcome_runTemplate [Objects] (config : Config) (data : Value) (number count : Nat)
    (template : Template) :
    (config.runTemplate data number count template).outcome = config.outcomeOf data template := by
  rw [outcomeOf, runTemplate]
  cases data.entriesFor "items" with
  | error cause => rfl
  | ok entries =>
    show _ = ((config.dataFor template entries).bind template.build).mapError _ >>= _
    dsimp only
    cases (config.dataFor template entries).bind template.build <;> rfl

/-- Templates run one by one, and the first failure is that of all. -/
theorem outcome_runTemplates [Objects] (config : Config) (data : Value) (number count : Nat)
    (templates : List Template) :
    (config.runTemplates data number count templates).outcome
      = templates.mapM (config.outcomeOf data) := by
  induction templates generalizing number with
  | nil => rfl
  | cons template rest ih =>
    rw [runTemplates, Run.outcome_andThen, outcome_runTemplate, List.mapM_cons]
    congr 1
    funext compiled
    rw [Run.outcome_andThen, ih]
    rfl

/-- A run gives what comes of each of the selected templates. -/
theorem outcome_run [Objects] (config : Config) (data : Value) (name : Option String) :
    (config.run data name).outcome = (do
      let templates ← config.select name
      templates.mapM (config.outcomeOf data)) := by
  rw [run]
  cases config.select name with
  | error e => rfl
  | ok templates =>
    show Run.outcome (Run.andThen _ _) = _
    rw [Run.outcome_andThen, outcome_runTemplates]
    exact bind_pure _

theorem outcome_run_none [Objects] (config : Config) (data : Value) :
    (config.run data none).outcome = config.templates.mapM (config.outcomeOf data) :=
  outcome_run config data none

theorem outcome_alone [Objects] (config : Config) (data : Value) (template : Template) :
    ((config.alone template).run data none).outcome = [template].mapM (config.outcomeOf data) :=
  outcome_run_none (config.alone template) data

/-- Alone, a template gives a list of the one query that it gives among others. -/
theorem alone_eq_ok_iff [Objects] {query : CompiledQuery} :
    ((config.alone template).run data none).outcome = .ok [query] ↔
      config.outcomeOf data template = .ok query := by
  rw [outcome_alone, mapM_eq_ok_iff, List.forall₂_cons]
  simp

/-- A template on its own fails exactly as it fails among others. -/
theorem alone_eq_error_iff [Objects] {e : RunError} :
    ((config.alone template).run data none).outcome = .error e ↔
      config.outcomeOf data template = .error e := by
  rw [outcome_alone, List.mapM_cons, List.mapM_nil, bind_eq_error_iff]
  constructor
  · rintro (h | ⟨query, -, h⟩)
    · exact h
    · cases h
  · exact .inl

theorem name_of_outcomeOf [Objects] {query : CompiledQuery}
    (h : config.outcomeOf data template = .ok query) : query.name = template.name := by
  obtain ⟨entries, -, h⟩ := bind_eq_ok_iff.mp h
  obtain ⟨text, -, h⟩ := bind_eq_ok_iff.mp h
  obtain rfl := Except.ok.inj h
  rfl

theorem outcomeOf_ne_noTemplate [Objects] {name : String} :
    config.outcomeOf data template ≠ .error (.noTemplate name) := by
  intro h
  rcases bind_eq_error_iff.mp h with h | ⟨entries, -, h⟩
  · obtain ⟨_, -, h⟩ := mapError_eq_error_iff.mp h
    cases h
  · rcases bind_eq_error_iff.mp h with h | ⟨_, -, h⟩
    · obtain ⟨_, -, h⟩ := mapError_eq_error_iff.mp h
      cases h
    · cases h

/-- Alone, a template gives one query under its name, or fails. -/
theorem alone_cases [Objects] (config : Config) (data : Value) (template : Template) :
    (∃ query, query.name = template.name ∧
        ((config.alone template).run data none).outcome = .ok [query]) ∨
      ∃ e, ((config.alone template).run data none).outcome = .error e := by
  cases h : config.outcomeOf data template with
  | error e => exact .inr ⟨e, alone_eq_error_iff.mpr h⟩
  | ok query => exact .inl ⟨query, name_of_outcomeOf h, alone_eq_ok_iff.mpr h⟩

/-- Queries bear the names of their templates. -/
theorem names_of_outcomes [Objects] {templates : List Template} {queries : List CompiledQuery}
    (h : List.Forall₂ (fun template query => config.outcomeOf data template = .ok query)
      templates queries) : queries.map CompiledQuery.name = templates.map Template.name := by
  induction h with
  | nil => rfl
  | cons hfirst _ ih => rw [List.map_cons, List.map_cons, name_of_outcomeOf hfirst, ih]

/-- Selecting fails exactly when no template has the name. -/
theorem select_eq_error_iff {name : String} {e : RunError} :
    config.select (some name) = .error e ↔
      e = .noTemplate name ∧ ∀ template ∈ config.templates, template.name ≠ some name := by
  rw [select]
  cases h : config.templates.filter (·.name == some name) with
  | nil =>
    have hnone : ∀ template ∈ config.templates, template.name ≠ some name := by
      simpa using h
    exact ⟨fun he => ⟨(Except.error.inj he).symm, hnone⟩, fun he => by rw [he.1]⟩
  | cons template rest =>
    have hmem : template ∈ config.templates.filter (·.name == some name) := by simp [h]
    obtain ⟨hmem, hname⟩ := List.mem_filter.mp hmem
    have hsome : ¬∀ template ∈ config.templates, template.name ≠ some name :=
      fun hnone => hnone template hmem (by simpa using hname)
    exact ⟨nofun, fun hnone => absurd hnone.2 hsome⟩

/-- A run over the template of a name is that of the template alone. -/
theorem outcome_run_some [Objects] (data : Value)
    (hdiffer : NamesDiffer (config.templates.map Template.name))
    (hmem : template ∈ config.templates) {name : String} (hname : template.name = some name) :
    (config.run data (some name)).outcome
      = ((config.alone template).run data none).outcome := by
  rw [outcome_run, select, filter_name_eq hdiffer hmem hname, outcome_alone]
  rfl

/-- A run over one template gives what comes of the template, whether or not it is asked for by
name. -/
theorem outcome_run_of_singleton [Objects] {name : Option String} {query : CompiledQuery}
    (htemplates : config.templates = [template]) (hname : name = none ∨ name = template.name)
    (h : config.outcomeOf data template = .ok query) :
    (config.run data name).outcome = .ok [query] := by
  have hselect : config.select name = .ok [template] := by
    cases name with
    | none => rw [select, htemplates]
    | some asked =>
      have hasked : template.name = some asked := by simpa [eq_comm] using hname
      rw [select, htemplates, List.filter_cons_of_pos (by simp [hasked]), List.filter_nil]
  rw [outcome_run, hselect, ok_bind, mapM_eq_ok_iff]
  exact .cons h .nil

end

end Config

/-- A name and a text make a template without data. -/
theorem Template.parse_named (place : Place) (name text : String) :
    Template.parse place (.map [(.str "NAME", .str name), (.str "QUERY", .str text)])
      = .ok ⟨trimName name, .term text, []⟩ := by
  rw [Template.parse]
  show (Query.parse (place.key "QUERY") (.str text) >>= fun query =>
    (pure ⟨trimName name, query, []⟩ : Except ReadError Template)) = _
  rw [Query.parse_str]
  rfl

open Config

/-- A run treats each template as if it were the only one. It gives one query for each template, in
the order of the templates, and fails as the first of them that fails alone. A name that no template
has is refused; otherwise the run is that of the one template of that name, whether or not the
others give queries, and gives what the run over all templates has under that name. -/
theorem run_eq_alone [Objects] {raw : Value} {config : Config}
    (hread : Config.parse raw = .ok config)
    (data : Value) :
    (∀ template ∈ config.templates,
      (∃ query, query.name = template.name ∧
          ((config.alone template).run data none).outcome = .ok [query]) ∨
        ∃ e, ((config.alone template).run data none).outcome = .error e) ∧
    (∀ queries, (config.run data none).outcome = .ok queries ↔
      List.Forall₂ (fun template query =>
        ((config.alone template).run data none).outcome = .ok [query]) config.templates queries) ∧
    (∀ e, (config.run data none).outcome = .error e ↔
      ∃ before template behind, config.templates = before ++ template :: behind ∧
        (∀ other ∈ before, ∃ query,
          ((config.alone other).run data none).outcome = .ok [query]) ∧
        ((config.alone template).run data none).outcome = .error e) ∧
    ∀ name,
      ((config.run data (some name)).outcome = .error (.noTemplate name) ↔
        ∀ template ∈ config.templates, template.name ≠ some name) ∧
      ∀ template ∈ config.templates, template.name = some name →
        (config.run data (some name)).outcome
            = ((config.alone template).run data none).outcome ∧
          ∀ queries, (config.run data none).outcome = .ok queries →
            (config.run data (some name)).outcome
              = .ok (queries.filter (·.name == some name)) ∧
            ∃ query, queries.filter (·.name == some name) = [query] := by
  have hdiffer := namesDiffer_of_parse hread
  refine ⟨fun template _ => alone_cases config data template, fun queries => ?_, fun e => ?_,
    fun name => ⟨?_, fun template hmem hname => ?_⟩⟩
  · rw [outcome_run_none, mapM_eq_ok_iff]
    simp only [alone_eq_ok_iff]
  · rw [outcome_run_none, mapM_eq_error_iff]
    simp only [alone_eq_ok_iff, alone_eq_error_iff]
  · rw [outcome_run, bind_eq_error_iff, select_eq_error_iff]
    constructor
    · rintro (h | ⟨templates, -, h⟩)
      · exact h.2
      · obtain ⟨_, template, _, -, -, h⟩ := mapM_eq_error_iff.mp h
        exact absurd h outcomeOf_ne_noTemplate
    · exact fun h => .inl ⟨rfl, h⟩
  · have hselected := outcome_run_some data hdiffer hmem hname
    refine ⟨hselected, fun queries hqueries => ?_⟩
    rw [outcome_run_none, mapM_eq_ok_iff] at hqueries
    obtain ⟨query, hquery, hbuilt⟩ := exists_of_mem_of_forall₂ hqueries hmem
    have hdiffer : NamesDiffer (queries.map CompiledQuery.name) := by
      rwa [names_of_outcomes hqueries]
    have hfilter := filter_name_eq hdiffer hquery ((name_of_outcomeOf hbuilt).trans hname)
    rw [hfilter, hselected]
    exact ⟨alone_eq_ok_iff.mpr hbuilt, query, rfl⟩

/-- The second of two templates cannot be compiled, and still the first one can be run by name. -/
theorem run_eq_alone_beside_failure :
    let raw : Value := .map [(.str "queries", .list [
      .map [(.str "NAME", .str " a "), (.str "QUERY", .str "x")],
      .map [(.str "NAME", .str "b"), (.str "QUERY", .str "\x7b")]])]
    let config : Config :=
      ⟨{}, [], [⟨some "a", .term "x", []⟩, ⟨some "b", .term "\x7b", []⟩]⟩
    Config.parse raw = .ok config ∧ (∃ e, (config.run (.map []) none).outcome = .error e) ∧
      (config.run (.map []) (some "a")).outcome = .ok [⟨some "a", Fragment.term "x"⟩] := by
  intro raw config
  have hparts : readParts raw = .ok config := by
    have hlog : LogSettings.read raw = .ok {} := rfl
    have hdata : readSection raw (.str "data") false = .ok [] := rfl
    have hqueries : section? raw (.str "queries") = .ok (some (.list [
      .map [(.str "NAME", .str " a "), (.str "QUERY", .str "x")],
      .map [(.str "NAME", .str "b"), (.str "QUERY", .str "\x7b")]])) := rfl
    rw [readParts, hlog, ok_bind, hdata, ok_bind, hqueries, ok_bind]
    show (readTemplates 0 _ >>= fun templates =>
      (pure ⟨{}, [], templates⟩ : Except ReadError Config)) = _
    rw [readTemplates, Template.parse_named, ok_bind, readTemplates, Template.parse_named, ok_bind]
    rfl
  have hread : Config.parse raw = .ok config := by
    have hlog : LogSettings.check {} = .ok () := by rfl
    have htemplates : checkTemplates config.templates = .ok () := rfl
    rw [Config.parse, hparts]
    show (LogSettings.check {} >>= fun _ => _) = _
    rw [hlog, ok_bind, htemplates, ok_bind]
    rfl
  obtain ⟨hcases, -, hfails, hname⟩ := run_eq_alone hread (.map [])
  have hfirst : ((config.alone ⟨some "a", .term "x", []⟩).run (.map []) none).outcome
      = .ok [⟨some "a", Fragment.term "x"⟩] := by cbv
  refine ⟨hread, ?_, ?_⟩
  · rcases hcases ⟨some "b", .term "\x7b", []⟩ (by simp [config]) with ⟨query, -, h⟩ | ⟨e, he⟩
    · have hnone : ((config.alone ⟨some "b", .term "\x7b", []⟩).run (.map []) none).outcome.toOption
          = none := by cbv
      rw [h] at hnone
      cases hnone
    · exact ⟨e, (hfails e).mpr ⟨[_], _, [], rfl, by simpa using ⟨_, hfirst⟩, he⟩⟩
  · rw [((hname "a").2 ⟨some "a", .term "x", []⟩ (by simp [config]) rfl).1]
    exact hfirst

end QueryTemplates
