import QueryTemplates.Proofs.Config.Layers
import QueryTemplates.Proofs.Config.Selection
import QueryTemplates.Proofs.DataOptions
import QueryTemplates.Proofs.KeyPath
import QueryTemplates.Proofs.Query.Compile

/-!
# Options reach the query

The text of an option passes four stages: the option is read, the data is laid over that of the
configuration and of the template, a placeholder finds the text, and the term puts it in quotes.
None of them loses the text or takes it for anything but a text.

About `SPEC_FULL.md` §10.3 (lines 174–178) and §13 (lines 213–215).
-/

namespace QueryTemplates

open Mapping

variable {config : Config} {template : Template} {data : Mapping} {path : KeyPath} {value : String}

/-- What the uppermost layer has along a path is handed to the query. -/
theorem find?_handed (hc : WellKeyed config.data) (ht : WellKeyed template.data)
    (hd : WellKeyed data) {keys : List String} {v : Value} (hv : v.entries? = none)
    (h : (Value.map data).find? keys = some v) :
    (Value.map (merge template.data (merge (merge config.data template.data) data))).find? keys
      = some v :=
  find?_merge ((hc.merge ht).merge hd) hv (find?_merge hd hv h)

theorem compile_placeholder [Objects] {data : Value}
    (h : data.find? path.keys = some (.str value)) :
    (Query.term path.placeholder).compile data = .ok (Fragment.term value) := by
  have hrender := render_placeholder path h
  refine compile_eq_ok_iff.mpr ⟨?_, ?_⟩
  · intro r hr
    obtain rfl := List.mem_singleton.mp hr
    exact ⟨value, hrender⟩
  · rw [Query.write, filledText_of_ok hrender]

/-- The text of an option always reaches a term that asks for it by its path, and stands there in
quotes. It does not matter what the text is, what the configuration and the template have along the
path, and what the other options are about, if only no later one is about the same place. -/
theorem run_eq_term_of_option [Objects] {name : Option String} {before behind : List String}
    (htemplates : config.templates = [template]) (hname : name = none ∨ name = template.name)
    (hquery : template.query = .term path.placeholder)
    (hc : WellKeyed config.data) (hcEnds : Ends config.data)
    (ht : WellKeyed template.data) (htEnds : Ends template.data)
    (hoptions : dataOfOptions (before ++ path.option value :: behind) = .ok data)
    (hbehind : ∀ other ∈ behind, ∀ assignment, Assignment.parse other = .ok assignment →
      Apart assignment.path path.keys) :
    (config.run (.map data) name).outcome = .ok [⟨template.name, Fragment.term value⟩] := by
  obtain ⟨hd, hdEnds⟩ := wellKeyed_and_ends_of_dataOfOptions hoptions
  have hfound : (Value.map data).find? path.keys = some (.str value) :=
    find?_dataOfOptions hoptions (path.parse_option value) hbehind
  have hcompiled := compile_placeholder (find?_handed hc ht hd rfl hfound)
  have hbuilt : (config.dataFor template data).bind template.build
      = .ok (Fragment.term value) := by
    rw [dataFor_of_ends hcEnds htEnds hdEnds]
    show template.build _ = _
    rw [build_of_ends htEnds ((hcEnds.merge htEnds).merge hdEnds), hquery, hcompiled]
  refine Config.outcome_run_of_singleton htemplates hname ?_
  rw [Config.outcomeOf]
  show (Except.mapError _ ((config.dataFor template data).bind template.build) >>= _) = _
  rw [hbuilt]
  rfl

/-- The option lays its text over a text of the configuration and over a mapping of the template. -/
theorem run_eq_term_of_option_at_collision :
    let path : KeyPath := ⟨"user", ["name"], by decide⟩
    let template : Template := ⟨some "q", .term "\x7buser[name]\x7d",
      [(.str "user", .map [(.str "name", .map [(.str "first", .str "x")])])]⟩
    let config : Config := ⟨{}, [(.str "user", .str "all")], [template]⟩
    let data : Mapping :=
      [(.str "user", .map [(.str "name", .str "a=\x7bb.c\x7d\""), (.str "age", .str "1")])]
    dataOfOptions ["user=all", path.option "a=\x7bb.c\x7d\"", "user.age=1"] = .ok data ∧
      (config.run (.map data) none).outcome
        = .ok [⟨some "q", Fragment.term "a=\x7bb.c\x7d\""⟩] := by
  intro path template config data
  have huser : Assignment.parse "user=all" = .ok ⟨["user"], "all"⟩ := rfl
  have hage : Assignment.parse "user.age=1" = .ok ⟨["user", "age"], "1"⟩ := rfl
  have hoptions : dataOfOptions (["user=all"] ++ path.option "a=\x7bb.c\x7d\"" :: ["user.age=1"])
      = .ok data := by
    simp only [dataOfOptions_eq_foldlM, List.cons_append, List.nil_append, List.foldlM_cons,
      List.foldlM_nil, withOption, huser, path.parse_option, hage, ok_bind, pure_bind]
    rfl
  have htext : "\x7buser[name]\x7d" = path.placeholder := by
    simp [path, KeyPath.placeholder, KeyPath.bracketed]
  have hquery : template.query = .term path.placeholder := congrArg Query.term htext
  have hbehind : ∀ other ∈ ["user.age=1"], ∀ assignment,
      Assignment.parse other = .ok assignment → Apart assignment.path path.keys := by
    intro other hother assignment hparse
    obtain rfl := List.mem_singleton.mp hother
    obtain rfl := Except.ok.inj (hparse.symm.trans hage)
    decide
  have hc : WellKeyed config.data := Assignment.wellKeyed_toMapping ⟨["user"], "all"⟩
  have hcEnds : Ends config.data := Assignment.ends_toMapping ⟨["user"], "all"⟩
  have ht : WellKeyed template.data :=
    Assignment.wellKeyed_toMapping ⟨["user", "name", "first"], "x"⟩
  have htEnds : Ends template.data := Assignment.ends_toMapping ⟨["user", "name", "first"], "x"⟩
  exact ⟨hoptions, run_eq_term_of_option rfl (.inl rfl) hquery hc hcEnds ht htEnds hoptions hbehind⟩

end QueryTemplates
