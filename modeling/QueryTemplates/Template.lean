import QueryTemplates.Query.Node
import QueryTemplates.Query.Parse
import QueryTemplates.Text.Blank

/-!
# Templates

A template is a query with a name of its own, if it has one, and data of its own. Building it lays
the data it is given over its own and compiles the query over the result.

Models `SPEC_FULL.md` §10.3 (lines 169–173) and §12 (lines 205–209).
-/

namespace QueryTemplates

/-- A query with a name and data of its own. -/
structure Template where
  name : Option String
  query : Query
  data : Mapping

namespace Template

/-- A name without the blanks around it; nothing but blanks is no name. -/
def trimName (s : String) : Option String :=
  match stripBlank s.toList with
  | [] => none
  | cs => some (String.ofList cs)

/-- The name in the mapping of a template. -/
def readName (place : Place) (entries : Mapping) : Except ReadError (Option String) :=
  match Mapping.get? entries (.str "NAME") with
  | some v => trimName <$> expectText (place.key "NAME") v
  | none => .ok none

/-- The data in the mapping of a template; without any it is empty. -/
def readData (place : Place) (entries : Mapping) : Except ReadError Mapping :=
  match Mapping.get? entries (.str "DATA") with
  | some v => expectMapping (place.key "DATA") v
  | none => .ok []

/-- The template that a value describes. `SPEC_FULL.md` §10.3 (lines 172–173). -/
def parse (place : Place) (v : Value) : Except ReadError Template := do
  let entries ← expectMapping place v
  checkKeys place none ["NAME", "QUERY", "DATA"] entries
  let name ← readName place entries
  let data ← readData place entries
  let body ← requireKey entries "QUERY" (place.key "QUERY")
  let query ← Query.parse (place.key "QUERY") body
  return ⟨name, query, data⟩

/-- The text of the template over data laid over its own. -/
def build [Objects] (template : Template) (data : Mapping) : Except CompileError String :=
  match Mapping.layer? template.data data with
  | some merged => template.query.compile (.map merged)
  | none => .error .endless

/-- The name in a log record. -/
def shownName (template : Template) : String := template.name.getD "None"

end Template

end QueryTemplates
