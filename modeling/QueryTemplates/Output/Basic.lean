import QueryTemplates.Output.Json

/-!
# Output of compiled queries

Compiled queries are written as text, one line for each query with the name in front where there
is one, or as a JSON list of objects with a name and a query.

Models `SPEC_FULL.md` §13 (lines 213–215).
-/

namespace QueryTemplates

/-- A query with the name of its template. -/
structure CompiledQuery where
  name : Option String
  query : String
deriving DecidableEq

/-- The forms of output. -/
inductive OutputFormat where
  | text
  | json
deriving DecidableEq

namespace CompiledQuery

/-- The query behind its name; an empty name is none. -/
def line (compiled : CompiledQuery) : String :=
  match compiled.name with
  | none | some "" => compiled.query
  | some name => name ++ ": " ++ compiled.query

/-- The query as a JSON object on four indented lines. -/
def jsonObject (compiled : CompiledQuery) : String :=
  "  \x7b\n    \"name\": "
    ++ (match compiled.name with
      | none => "null"
      | some name => jsonText name)
    ++ ",\n    \"query\": " ++ jsonText compiled.query ++ "\n  \x7d"

end CompiledQuery

/-- One line for each query. `SPEC_FULL.md` §13 (line 215). -/
def writeText (queries : List CompiledQuery) : String :=
  "\n".intercalate (queries.map CompiledQuery.line)

/-- A JSON list with one object for each query. `SPEC_FULL.md` §13 (line 215). -/
def writeJson : List CompiledQuery → String
  | [] => "[]"
  | queries => "[\n" ++ ",\n".intercalate (queries.map CompiledQuery.jsonObject) ++ "\n]"

/-- The output in a format. -/
def OutputFormat.write : OutputFormat → List CompiledQuery → String
  | .text => writeText
  | .json => writeJson

end QueryTemplates
