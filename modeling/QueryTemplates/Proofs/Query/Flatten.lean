import QueryTemplates.Proofs.Query.Requirement
import QueryTemplates.Proofs.Text.Joined

/-!
# Queries without needless operators

An operator over one part writes that part, and an operator among the parts of an equal one writes
what its own parts would write there. `Query.flatten` takes both sorts of operators out of a query,
from the innermost outward. The flattened query asks for the same in the same order and is written
alike. Main statement: `compile_flatten`.

About `SPEC_FULL.md` §4.4 (lines 69–74) and §12 (lines 205–209).
-/

namespace QueryTemplates

namespace Query

/-- The parts that a query gives to an operator it stands under: its own parts if it joins some by
the same operator, and otherwise itself. -/
def partsUnder (op : Operator) : Query → List Query
  | .boolean inner (child :: rest) =>
    if inner = op then child :: rest else [.boolean inner (child :: rest)]
  | q => [q]

/-- Parts under an operator; a part that stands alone needs none. -/
def joinedBy (op : Operator) : List Query → Query
  | [q] => q
  | qs => .boolean op qs

mutual

/-- The query without operators over one part and without operators directly under an equal one. -/
def flatten : Query → Query
  | .term text => .term text
  | .raw text => .raw text
  | .field name body => .field name body.flatten
  | .boolean op children => joinedBy op ((flattenAll children).flatMap (partsUnder op))
  | .group children => .group (flattenAll children)
  | .range start stop includeStart includeStop => .range start stop includeStart includeStop
  | .fuzzy body similarity => .fuzzy body.flatten similarity
  | .proximity first second distance => .proximity first second distance
  | .boost body factor => .boost body.flatten factor
  | .required body => .required body.flatten

/-- The queries, each flattened. -/
def flattenAll : List Query → List Query
  | [] => []
  | q :: rest => q.flatten :: flattenAll rest

end

theorem flattenAll_eq_map (qs : List Query) : flattenAll qs = qs.map flatten := by
  induction qs with
  | nil => rfl
  | cons q rest ih => rw [flattenAll, ih, List.map_cons]

/-- In the whole query no operator has exactly one part, and none has a part that joins parts by the
same operator. -/
inductive Flat : Query → Prop
  | term (text : String) : Flat (.term text)
  | raw (text : String) : Flat (.raw text)
  | field (name : String) {body : Query} (hbody : Flat body) : Flat (.field name body)
  | boolean {op : Operator} {children : List Query} (hchildren : ∀ q ∈ children, Flat q)
    (hlength : children.length ≠ 1) (hinner : ∀ inner, .boolean op inner ∈ children → inner = []) :
    Flat (.boolean op children)
  | group {children : List Query} (hchildren : ∀ q ∈ children, Flat q) : Flat (.group children)
  | range (start stop : String) (includeStart includeStop : Bool) :
    Flat (.range start stop includeStart includeStop)
  | fuzzy {body : Query} (hbody : Flat body) (similarity : Option Number) :
    Flat (.fuzzy body similarity)
  | proximity (first second : String) (distance : Number) : Flat (.proximity first second distance)
  | boost {body : Query} (hbody : Flat body) (factor : Number) : Flat (.boost body factor)
  | required {body : Query} (hbody : Flat body) : Flat (.required body)

/-! ### One operator -/

section

variable (op : Operator)

/-- Children under the same operator are parts of their own. -/
theorem partsUnder_same (child : Query) (rest : List Query) :
    partsUnder op (.boolean op (child :: rest)) = child :: rest := by
  simp [partsUnder]

/-- Only what joins parts by the same operator gives these instead of itself. -/
theorem partsUnder_eq_singleton {q : Query} (h : ∀ inner, q = .boolean op inner → inner = []) :
    partsUnder op q = [q] := by
  unfold partsUnder
  split
  · next inner child rest =>
    split
    · next hop =>
      subst hop
      have hnil := h (child :: rest) rfl
      cases hnil
    · rfl
  · rfl

/-- A query gives its own parts to an operator, or itself. -/
theorem partsUnder_cases (q : Query) :
    (∃ child rest, q = .boolean op (child :: rest) ∧ partsUnder op q = child :: rest) ∨
      (∀ inner, q = .boolean op inner → inner = []) ∧ partsUnder op q = [q] := by
  by_cases h : ∀ inner, q = .boolean op inner → inner = []
  · exact .inr ⟨h, partsUnder_eq_singleton op h⟩
  · simp only [not_forall] at h
    obtain ⟨inner, rfl, hinner⟩ := h
    cases inner with
    | nil => exact absurd rfl hinner
    | cons child rest => exact .inl ⟨child, rest, rfl, partsUnder_same op child rest⟩

theorem partsUnder_ne_nil (q : Query) : partsUnder op q ≠ [] := by
  rcases partsUnder_cases op q with ⟨child, rest, -, h⟩ | ⟨-, h⟩ <;> simp [h]

theorem joinedBy_of_length_ne {qs : List Query} (h : qs.length ≠ 1) :
    joinedBy op qs = .boolean op qs := by
  unfold joinedBy
  split
  · exact absurd rfl h
  · rfl

/-- Parts are one part that stands alone, or the operator stands over them. -/
theorem joinedBy_cases (qs : List Query) :
    (∃ q, qs = [q] ∧ joinedBy op qs = q) ∨ qs.length ≠ 1 ∧ joinedBy op qs = .boolean op qs := by
  by_cases h : qs.length = 1
  · obtain ⟨q, rfl⟩ := List.length_eq_one_iff.mp h
    exact .inl ⟨q, rfl, rfl⟩
  · exact .inr ⟨h, joinedBy_of_length_ne op h⟩

/-! ### The same requirements and the same text -/

/-- Joining requires what the parts require. -/
theorem requirements_joinedBy (qs : List Query) :
    (joinedBy op qs).requirements = qs.flatMap requirements := by
  rw [← requirementsAll_eq_flatMap]
  rcases joinedBy_cases op qs with ⟨q, rfl, h⟩ | ⟨-, h⟩
  · rw [h]
    simp [requirementsAll]
  · rw [h, requirements]

theorem requirements_partsUnder (q : Query) :
    (partsUnder op q).flatMap requirements = q.requirements := by
  rcases partsUnder_cases op q with ⟨child, rest, rfl, h⟩ | ⟨-, h⟩
  · rw [h, requirements, requirementsAll_eq_flatMap]
  · rw [h, List.flatMap_singleton]

variable (fill : String → String)

/-- Joined queries are written with the operator between them. -/
theorem write_joinedBy (qs : List Query) :
    (joinedBy op qs).write fill = op.joiner.write (qs.map (write fill)) := by
  rw [← writeAll_eq_map]
  rcases joinedBy_cases op qs with ⟨q, rfl, h⟩ | ⟨-, h⟩
  · rw [h]
    simp [writeAll, Joiner.write]
  · rw [h, write]

theorem write_partsUnder (q : Query) :
    op.joiner.write ((partsUnder op q).map (write fill)) = q.write fill := by
  rcases partsUnder_cases op q with ⟨child, rest, rfl, h⟩ | ⟨-, h⟩
  · rw [h, write, writeAll_eq_map]
  · rw [h]
    simp [Joiner.write]

/-- Parts that are given to an operator by queries are written as the queries are. -/
theorem write_flatMap_partsUnder (qs : List Query) :
    op.joiner.write ((qs.flatMap (partsUnder op)).map (write fill))
      = op.joiner.write (qs.map (write fill)) := by
  have hparts : ∀ q ∈ qs, (partsUnder op q).map (write fill) ≠ [] := by
    intro q _
    simp [partsUnder_ne_nil]
  rw [List.map_flatMap, Joiner.write, intercalate_flatMap _ hparts, Joiner.write]
  congr 1
  apply List.map_congr_left
  intro q _
  exact write_partsUnder op fill q

end

/-- The flattened query asks for the same in the same order. -/
theorem requirements_flatten (q : Query) : q.flatten.requirements = q.requirements := by
  induction q using Query.induct with
  | term text => rfl
  | raw text => rfl
  | field name body ih => rw [flatten, requirements, requirements, ih]
  | boolean op children ih =>
    rw [flatten, requirements_joinedBy, flattenAll_eq_map, List.flatMap_assoc, List.flatMap_map,
      requirements, requirementsAll_eq_flatMap]
    apply List.flatMap_congr
    intro q hq
    rw [requirements_partsUnder, ih q hq]
  | group children ih =>
    rw [flatten, requirements, requirements, flattenAll_eq_map, requirementsAll_eq_flatMap,
      requirementsAll_eq_flatMap, List.flatMap_map]
    apply List.flatMap_congr
    exact ih
  | range start stop includeStart includeStop => rfl
  | fuzzy body similarity ih => cases similarity <;> rw [flatten, requirements, requirements, ih]
  | proximity first second distance => rfl
  | boost body factor ih => rw [flatten, requirements, requirements, ih]
  | required body ih => rw [flatten, requirements, requirements, ih]

/-- The flattened query is written alike, whatever becomes of its texts. -/
theorem write_flatten (fill : String → String) (q : Query) :
    q.flatten.write fill = q.write fill := by
  induction q using Query.induct with
  | term text => rfl
  | raw text => rfl
  | field name body ih => rw [flatten, write, write, ih]
  | boolean op children ih =>
    have hchildren : (children.map flatten).map (write fill) = children.map (write fill) := by
      rw [List.map_map]
      apply List.map_congr_left
      exact ih
    rw [flatten, write_joinedBy, write_flatMap_partsUnder, flattenAll_eq_map, hchildren, write,
      writeAll_eq_map]
  | group children ih =>
    have hchildren : (children.map flatten).map (write fill) = children.map (write fill) := by
      rw [List.map_map]
      apply List.map_congr_left
      exact ih
    rw [flatten, write, write, flattenAll_eq_map, writeAll_eq_map, writeAll_eq_map, hchildren]
  | range start stop includeStart includeStop => rfl
  | fuzzy body similarity ih => rw [flatten, write, write, ih]
  | proximity first second distance => rfl
  | boost body factor ih => rw [flatten, write, write, ih]
  | required body ih => rw [flatten, write, write, ih]

/-! ### Flat queries -/

/-- Flat queries none of which splits again make a flat one. -/
theorem Flat.joinedBy {op : Operator} {qs : List Query} (hqs : ∀ q ∈ qs, q.Flat)
    (hinner : ∀ inner, .boolean op inner ∈ qs → inner = []) : (joinedBy op qs).Flat := by
  rcases joinedBy_cases op qs with ⟨q, rfl, h⟩ | ⟨hlength, h⟩
  · rw [h]
    exact hqs q (by simp)
  · rw [h]
    exact .boolean hqs hlength hinner

/-- A flat query gives flat parts to an operator, and none that joins parts by it. -/
theorem Flat.of_mem_partsUnder {op : Operator} {q part : Query} (h : q.Flat)
    (hpart : part ∈ partsUnder op q) :
    part.Flat ∧ ∀ inner, part = .boolean op inner → inner = [] := by
  rcases partsUnder_cases op q with ⟨child, rest, rfl, hparts⟩ | ⟨hself, hparts⟩
  · rw [hparts] at hpart
    cases h with
    | boolean hchildren hlength hinner =>
      refine ⟨hchildren part hpart, ?_⟩
      rintro inner rfl
      exact hinner inner hpart
  · rw [hparts, List.mem_singleton] at hpart
    subst hpart
    exact ⟨h, hself⟩

theorem flat_flatten (q : Query) : q.flatten.Flat := by
  induction q using Query.induct with
  | term text => exact .term text
  | raw text => exact .raw text
  | field name body ih => exact .field name ih
  | boolean op children ih =>
    have hparts : ∀ part ∈ (flattenAll children).flatMap (partsUnder op),
        part.Flat ∧ ∀ inner, part = .boolean op inner → inner = [] := by
      intro part hpart
      rw [flattenAll_eq_map, List.flatMap_map, List.mem_flatMap] at hpart
      obtain ⟨q, hq, hpart⟩ := hpart
      exact (ih q hq).of_mem_partsUnder hpart
    rw [flatten]
    exact .joinedBy (fun part hpart => (hparts part hpart).1)
      fun inner hinner => (hparts _ hinner).2 inner rfl
  | group children ih =>
    rw [flatten, flattenAll_eq_map]
    refine .group ?_
    rwa [List.forall_mem_map]
  | range start stop includeStart includeStop => exact .range start stop includeStart includeStop
  | fuzzy body similarity ih => exact .fuzzy ih similarity
  | proximity first second distance => exact .proximity first second distance
  | boost body factor ih => exact .boost ih factor
  | required body ih => exact .required ih

/-- Children that are flat stay as they are. -/
theorem flattenAll_eq_self {qs : List Query} (h : ∀ q ∈ qs, q.flatten = q) :
    flattenAll qs = qs := by
  calc
    flattenAll qs = qs.map flatten := flattenAll_eq_map qs
    _ = qs.map id := List.map_congr_left h
    _ = qs := List.map_id qs

/-- Flattening takes nothing out of a query that is flat, and leaves no other as it is. -/
theorem flatten_eq_self_iff {q : Query} : q.flatten = q ↔ q.Flat := by
  constructor
  · intro h
    rw [← h]
    exact flat_flatten q
  · intro h
    induction h with
    | term text => rfl
    | raw text => rfl
    | field name hbody ih => rw [flatten, ih]
    | @boolean op children hchildren hlength hinner ih =>
      have hparts : children.flatMap (partsUnder op) = children := by
        have hself : ∀ q ∈ children, partsUnder op q = [q] := by
          intro q hq
          apply partsUnder_eq_singleton
          rintro inner rfl
          exact hinner inner hq
        rw [List.flatMap_congr hself, List.flatMap_singleton']
      rw [flatten, flattenAll_eq_self ih, hparts, joinedBy_of_length_ne op hlength]
    | group hchildren ih => rw [flatten, flattenAll_eq_self ih]
    | range start stop includeStart includeStop => rfl
    | fuzzy hbody similarity ih => rw [flatten, ih]
    | proximity first second distance => rfl
    | boost hbody factor ih => rw [flatten, ih]
    | required hbody ih => rw [flatten, ih]

/-- Flattening leaves no needless operator, and over any data the flattened query has the outcome of
the query: the same text, or the same failure of the same part. An operator without parts stays
where it is, so no query is left out. -/
theorem compile_flatten [Objects] (q : Query) :
    q.flatten.Flat ∧ ∀ data : Value, q.flatten.compile data = q.compile data := by
  refine ⟨flat_flatten q, fun data => ?_⟩
  rw [compile_eq, compile_eq, requirements_flatten, write_flatten]

/-- What an operator over one part leaves behind is taken apart where it then stands. -/
example :
    flatten (.boolean .and [.boolean .or [.boolean .and [.term "a", .term "b"]], .term "c",
        .boolean .and []])
      = .boolean .and [.term "a", .term "b", .term "c", .boolean .and []] := rfl

end Query

end QueryTemplates
