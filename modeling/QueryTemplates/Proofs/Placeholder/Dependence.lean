import QueryTemplates.Proofs.Placeholder.Name
import QueryTemplates.Proofs.Placeholder.Render

/-!
# What a text takes from data

A placeholder names a key of the data: what stands in its braces in front of the first point or
bracket. Filling a text looks up the keys that its placeholders name, those in specifications
included, and looks at nothing else of the data. Data that agrees on them gives the same outcome,
be it a text or a failure.

Equal values can be kept in two places, and an attribute can tell the places apart. So the data may
come with attributes of its own in each of two runs; they must be the same where a placeholder asks
for an attribute, and there only.

About `SPEC_FULL.md` §11 (lines 202–203).
-/

namespace QueryTemplates

/-! ### Keys and attributes -/

/-- The key of the data that a placeholder names. -/
def Field.key (field : Field) : String := String.ofList (field.name.takeWhile (!beginsAccess ·))

section

-- the objects are no instance here, so that the equations can be used in both runs
variable {objects : Objects} (depth : Nat) (data : Value) (rest : List Segment)

end

section

variable [objects : Objects] {attributeOf : Reached → String → Except AccessError Reached}
  {data data' : Value} {depth : Nat} {segs : List Segment} {found : Reached}

end

end QueryTemplates
