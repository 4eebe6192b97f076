import QueryTemplates.Fragment.Basic

/-!
# Queries

A query is a tree of terms, raw fragments, fields, ranges and numeric modifiers, joined by
operators or grouped. Its texts may hold placeholders, which are filled when it is compiled.

Models `SPEC_FULL.md` §11 (lines 185–201).
-/

namespace QueryTemplates

/-- An operator between the parts of a query. -/
inductive Operator where
  | and
  | or
  | not
deriving DecidableEq

namespace Operator

/-- The operator as it stands in a query. -/
def word : Operator → String
  | .and => "AND"
  | .or => "OR"
  | .not => "NOT"

/-- The operator of that word. -/
def ofWord? : String → Option Operator
  | "AND" => some .and
  | "OR" => some .or
  | "NOT" => some .not
  | _ => none

/-- How the operator joins fragments. -/
def joiner (op : Operator) : Joiner := ⟨op.word⟩

/-- An operator is found by its own word. -/
@[simp] theorem ofWord?_word (op : Operator) : ofWord? op.word = some op := by cases op <;> rfl

end Operator

/-- A query whose texts may hold placeholders. `SPEC_FULL.md` §11 (lines 188–199). -/
inductive Query where
  /-- A word or phrase in quotes. -/
  | term (text : String)
  /-- A fragment that stands as it is. -/
  | raw (text : String)
  /-- A part that holds for one field. -/
  | field (name : String) (body : Query)
  /-- Parts joined by an operator. -/
  | boolean (operator : Operator) (children : List Query)
  /-- Parts that stand together. -/
  | group (children : List Query)
  /-- What lies between two bounds. -/
  | range (start stop : String) (includeStart includeStop : Bool)
  /-- A part to be matched approximately. -/
  | fuzzy (body : Query) (similarity : Option Number)
  /-- Two words within a distance of each other. -/
  | proximity (first second : String) (distance : Number)
  /-- A part that counts more. -/
  | boost (body : Query) (factor : Number)
  /-- A part that must match. -/
  | required (body : Query)

/-- What holds of every query whenever it holds of its parts holds of all queries. -/
@[elab_as_elim]
theorem Query.induct {motive : Query → Prop}
    (term : ∀ text, motive (.term text))
    (raw : ∀ text, motive (.raw text))
    (field : ∀ name body, motive body → motive (.field name body))
    (boolean : ∀ op children, (∀ q ∈ children, motive q) → motive (.boolean op children))
    (group : ∀ children, (∀ q ∈ children, motive q) → motive (.group children))
    (range : ∀ start stop includeStart includeStop,
      motive (.range start stop includeStart includeStop))
    (fuzzy : ∀ body similarity, motive body → motive (.fuzzy body similarity))
    (proximity : ∀ first second distance, motive (.proximity first second distance))
    (boost : ∀ body factor, motive body → motive (.boost body factor))
    (required : ∀ body, motive body → motive (.required body)) (q : Query) : motive q := by
  refine Query.rec (motive_1 := motive) (motive_2 := fun children => ∀ q ∈ children, motive q)
    term raw field boolean group range fuzzy proximity boost required ?_ ?_ q
  · intro q h
    cases h
  · intro head tail hhead htail q h
    rcases List.mem_cons.mp h with rfl | h
    · exact hhead
    · exact htail q h

end QueryTemplates
