import QueryTemplates.Proofs.Value.Agreement
import QueryTemplates.Proofs.Value.Ending
import QueryTemplates.Run

/-!
# The data a query is compiled over

In a run the data of the configuration lies below that of a template, and the data given for the run
above both. Building the template lays the result over the data of the template once more, and hands
that to the query. The query finds in it what it would have found before.

About `SPEC_FULL.md` §10.3 (lines 174–178).
-/

namespace QueryTemplates

open Mapping

variable {config : Config} {template : Template} {data : Mapping}

theorem dataFor_of_ends (hc : Ends config.data) (ht : Ends template.data)
    (hd : Ends data) :
    config.dataFor template data = .ok (merge (merge config.data template.data) data) := by
  rw [Config.dataFor, layer?_of_ends hc ht, Option.bind_some, layer?_of_ends (hc.merge ht) hd]

/-- A template is built over its own data with the given data above. -/
theorem build_of_ends [Objects] (ht : Ends template.data) (hd : Ends data) :
    template.build data = template.query.compile (.map (merge template.data data)) := by
  rw [Template.build, layer?_of_ends ht hd]

/-- The precedence of the three layers of data holds for what is compiled. The mapping that is
handed to the query, for which the data of the template was merged a second time, agrees with the
layers merged once: nothing of the template comes back that was replaced, and nothing is lost. Data
without loops is always handed to the query. -/
theorem handed_agrees_with_layers [Objects] (hc : WellKeyed config.data)
    (ht : WellKeyed template.data) (hd : WellKeyed data) :
    Mapping.Agree (merge template.data (merge (merge config.data template.data) data))
        (merge (merge config.data template.data) data) ∧
      (Ends config.data → Ends template.data → Ends data →
        config.dataFor template data = .ok (merge (merge config.data template.data) data) ∧
          (config.dataFor template data).bind template.build = template.query.compile
            (.map (merge template.data (merge (merge config.data template.data) data)))) := by
  refine ⟨agree_merge_again hc ht hd, fun hc ht hd => ?_⟩
  have hmerged := dataFor_of_ends hc ht hd
  refine ⟨hmerged, ?_⟩
  rw [hmerged]
  exact build_of_ends ht ((hc.merge ht).merge hd)

/-- At one key the layers have two mappings and a text. -/
theorem handed_agrees_at_collision :
    let config : Config := ⟨{}, [(.str "k", .map [(.str "a", .str "1")])], []⟩
    let template : Template := ⟨none, .raw "\x7bk\x7d", [(.str "k", .map [(.str "b", .str "2")])]⟩
    let data : Mapping := [(.str "k", .str "3")]
    WellKeyed config.data ∧ WellKeyed template.data ∧ WellKeyed data ∧
      Ends config.data ∧ Ends template.data ∧ Ends data ∧
        Mapping.Agree (merge template.data (merge (merge config.data template.data) data))
          (merge (merge config.data template.data) data) ∧
        (config.dataFor template data).bind template.build = template.query.compile
          (.map (merge template.data (merge (merge config.data template.data) data))) := by
  intro config template data
  have hkeyed (s : String) : (Value.str s).WellKeyed := .other rfl
  have hends (s : String) : (Value.str s).Ends := .other rfl nofun
  have hcell (key s : String) : (Value.map [(.str key, .str s)]).WellKeyed :=
    .mapping rfl (List.pairwise_singleton _ _) (by simp [hkeyed])
  have hcellEnds (key s : String) : (Value.map [(.str key, .str s)]).Ends :=
    .mapping rfl (by simp [hends])
  have hc : WellKeyed config.data := ⟨by decide, by simp [config, hcell]⟩
  have ht : WellKeyed template.data := ⟨by decide, by simp [template, hcell]⟩
  have hd : WellKeyed data := ⟨by decide, by simp [data, hkeyed]⟩
  have hcEnds : Ends config.data := by simp [Ends, config, hcellEnds]
  have htEnds : Ends template.data := by simp [Ends, template, hcellEnds]
  have hdEnds : Ends data := by simp [Ends, data, hends]
  obtain ⟨hagree, hbuilt⟩ := handed_agrees_with_layers hc ht hd
  exact ⟨hc, ht, hd, hcEnds, htEnds, hdEnds, hagree, (hbuilt hcEnds htEnds hdEnds).2⟩

end QueryTemplates
