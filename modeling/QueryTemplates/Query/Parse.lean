import QueryTemplates.Query.Basic
import QueryTemplates.Reading.Shape

/-!
# Reading queries from values

A query is written as text, which is a term, or as a mapping with exactly one key that names the
kind of the query, and the companions of that key. `Query.parse` reads such a value; what it
refuses it names by its place.

Models `SPEC_FULL.md` §11 (lines 185–201).
-/

namespace QueryTemplates

/-- The kinds of written queries. -/
inductive QueryKind where
  | boolean (operator : Operator)
  | boost
  | field
  | fuzzy
  | group
  | phrase
  | proximity
  | range
  | raw
  | required
  | term
deriving DecidableEq

namespace QueryKind

/-- The key that names a kind. -/
def name : QueryKind → String
  | .boolean .and => "and"
  | .boolean .or => "or"
  | .boolean .not => "not"
  | .boost => "boost"
  | .field => "field"
  | .fuzzy => "fuzzy"
  | .group => "group"
  | .phrase => "phrase"
  | .proximity => "proximity"
  | .range => "range"
  | .raw => "raw"
  | .required => "required"
  | .term => "term"

/-- All kinds in the order of their names. -/
def all : List QueryKind :=
  [.boolean .and, .boost, .field, .fuzzy, .group, .boolean .not, .boolean .or, .phrase, .proximity,
    .range, .raw, .required, .term]

/-- The keys that may stand beside the one that names the kind. `SPEC_FULL.md` §11 (lines
188–199). -/
def companions : QueryKind → List String
  | .field => ["query"]
  | .fuzzy => ["similarity"]
  | .boost => ["factor"]
  | _ => []

/-- The kind that a key names. -/
def ofKey? : Scalar → Option QueryKind
  | .str s => all.find? fun kind => kind.name == s
  | _ => none

@[simp] theorem ofKey?_name (kind : QueryKind) : ofKey? (.str kind.name) = some kind := by
  cases kind with
  | boolean op => cases op <;> decide
  | _ => decide

end QueryKind

namespace Query

/-- The one kind that the keys of a mapping name. -/
def soleKind (place : Place) (entries : Mapping) : Except ReadError QueryKind :=
  match (Mapping.keys entries).filterMap QueryKind.ofKey? with
  | [kind] => .ok kind
  | _ => .error (.noSoleKey place (QueryKind.all.map QueryKind.name))

/-- A truth value that is false when its key is absent. -/
def readFlag (place : Place) (entries : Mapping) (name : String) : Except ReadError Bool :=
  match Mapping.get? entries (.str name) with
  | some v => expectBool (place.key name) v
  | none => .ok false

/-- A text at a key that must be present. -/
def readText (place : Place) (entries : Mapping) (name : String) : Except ReadError String := do
  expectText (place.key name) (← requireKey entries name (place.key name))

/-- A number at a key that must be present. -/
def readNumber (place : Place) (entries : Mapping) (name : String) : Except ReadError Number := do
  expectNumber (place.key name) (← requireKey entries name (place.key name))

/-- A range from the mapping that describes it. -/
def readRange (place : Place) (v : Value) : Except ReadError Query := do
  let entries ← expectMapping place v
  checkKeys place none ["start", "end", "include_left", "include_right"] entries
  let start ← readText place entries "start"
  let stop ← readText place entries "end"
  let includeStart ← readFlag place entries "include_left"
  let includeStop ← readFlag place entries "include_right"
  return .range start stop includeStart includeStop

/-- Two words and a distance from the mapping that describes them. -/
def readProximity (place : Place) (v : Value) : Except ReadError Query := do
  let entries ← expectMapping place v
  let first ← readText place entries "first"
  let second ← readText place entries "second"
  let distance ← readNumber place entries "distance"
  return .proximity first second distance

/-- The similarity beside a query to be matched approximately: null and absent are the same. -/
def readSimilarity (place : Place) (entries : Mapping) : Except ReadError (Option Number) :=
  match Mapping.get? entries (.str "similarity") with
  | none | some .null => .ok none
  | some v => some <$> expectNumber (place.key "similarity") v

mutual

/-- The query that a value describes. `SPEC_FULL.md` §11 (lines 185–201). -/
def parse (place : Place) (v : Value) : Except ReadError Query :=
  match v with
  | .str s => .ok (.term s)
  | .map entries => do
    let kind ← soleKind place entries
    checkKeys place (some kind.name) (kind.name :: kind.companions) entries
    match _found : Mapping.get? entries (.str kind.name) with
    | none => throw (.missing (place.key kind.name))
    | some body =>
      let inner := place.key kind.name
      match kind with
      | .term | .phrase => return .term (← expectText inner body)
      | .raw => return .raw (← expectText inner body)
      | .field => do
        let name ← expectText inner body
        match _part : Mapping.get? entries (.str "query") with
        | none => throw (.missing (place.key "query"))
        | some part => return .field name (← parse (place.key "query") part)
      | .boolean op => return .boolean op (← parseChildren inner body)
      | .group => return .group (← parseChildren inner body)
      | .range => readRange inner body
      | .fuzzy => do
        let similarity ← readSimilarity place entries
        return .fuzzy (← parse inner body) similarity
      | .proximity => readProximity inner body
      | .boost => do
        let query ← parse inner body
        return .boost query (← readNumber place entries "factor")
      | .required => return .required (← parse inner body)
  | .loop _ content => parse place content
  | .endless => .error .endless
  | _ => .error (.shape place .mapping)
termination_by sizeOf v
decreasing_by
  all_goals
    first
    | have := Mapping.sizeOf_get? _part; simp only [Value.map.sizeOf_spec]; omega
    | have := Mapping.sizeOf_get? _found; simp only [Value.map.sizeOf_spec]; omega
    | simp only [Value.loop.sizeOf_spec]; omega

/-- The queries that the items of a list describe. -/
def parseChildren (place : Place) (v : Value) : Except ReadError (List Query) :=
  match v with
  | .list items => parseItems place 0 items
  | .loop _ content => parseChildren place content
  | .endless => .error .endless
  | _ => .error (.shape place .list)
termination_by sizeOf v

/-- The queries that items describe, the first of which has the number `index`. -/
def parseItems (place : Place) (index : Nat) (items : List Value) :
    Except ReadError (List Query) :=
  match items with
  | [] => .ok []
  | item :: rest => do
    let query ← parse (place.index index) item
    return query :: (← parseItems place (index + 1) rest)
termination_by sizeOf items

end

end Query

end QueryTemplates
