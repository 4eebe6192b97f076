import QueryTemplates.Fragment.Builder
import QueryTemplates.Placeholder.Fill
import QueryTemplates.Query.Basic
import QueryTemplates.Text.Uppercase

/-!
# Compiling queries

A node is a query whose texts, numbers and flags may be values of any kind. Compiling a node fills
its texts from data and hands the results to the builders, which check them: so escaping and the
checks always see the final values. A node is compiled depth first and from left to right, and the
first failure is the outcome. A query is compiled as the node with its texts, numbers and flags.

Models `SPEC_FULL.md` §12 (lines 205–209).
-/

namespace QueryTemplates

/-- A query node before anything about its parts is known. -/
inductive Node where
  | term (text : Value)
  | raw (text : Value)
  | field (name : Value) (body : Node)
  | boolean (operator : Value) (children : List Node)
  | group (children : List Node)
  | range (start stop includeStart includeStop : Value)
  | fuzzy (body : Node) (similarity : Value)
  | proximity (first second distance : Value)
  | boost (body : Node) (factor : Value)
  | required (body : Node)
  /-- A value in the place of a node. -/
  | other (value : Value)

/-- Why a node cannot be compiled. -/
inductive CompileError where
  | render (cause : RenderError)
  | argument (cause : ArgumentError)
  /-- There is no such operator. -/
  | operator (word : Value)
  /-- The operator is no text and has no capitals. -/
  | noCapitals (kind : Kind)
  /-- The value is no node. -/
  | noNode (kind : Kind)
  /-- The data is laid over a loop without an end. -/
  | endless

/-- The failure in words. -/
def CompileError.message : CompileError → String
  | .render cause => cause.message
  | .argument cause => cause.message
  | .operator word => "Unsupported boolean operator: " ++ word.text
  | .noCapitals kind => (AccessError.noAttribute kind "upper").message
  | .noNode kind => "Unsupported query node: " ++ kind.name
  | .endless => recursionMessage inComparison

/-- The category of the failure. -/
def CompileError.category : CompileError → Category
  | .render cause => cause.category
  | .argument cause => cause.category
  | .operator _ => .badValue
  | .noCapitals _ => .missingAttribute
  | .noNode _ => .wrongType
  | .endless => .recursion

/-- The operator that a value names in any case. -/
def Operator.ofValue (v : Value) : Except CompileError Operator :=
  match v with
  | .str s => match ofWord? (upperCase s) with
    | some op => .ok op
    | none => .error (.operator v)
  | .bytes _ => .error (.operator v)
  | v => .error (.noCapitals v.kind)

namespace Node

/-- A text filled from data. -/
private def filled [Objects] (data text : Value) : Except CompileError Value :=
  ((render text data).mapError .render).map .str

/-- A fragment made by a builder. -/
private def built (fragment : Except ArgumentError String) : Except CompileError String :=
  fragment.mapError .argument

mutual

/-- The fragment of a node over some data. `SPEC_FULL.md` §12 (lines 206–209). -/
def compile [Objects] (data : Value) : Node → Except CompileError String
  | .term text => do built (Builder.term (← filled data text))
  | .raw text => (render text data).mapError .render
  | .field name body => do
    let name ← filled data name
    let fragment ← compile data body
    built (Builder.field name (.str fragment))
  | .boolean operator children => do
    let op ← Operator.ofValue operator
    return op.joiner.write (← compileAll data children)
  | .group children => do return Fragment.group.write (← compileAll data children)
  | .range start stop includeStart includeStop => do
    let start ← filled data start
    let stop ← filled data stop
    built (Builder.range start stop includeStart includeStop)
  | .fuzzy body similarity => do
    let fragment ← compile data body
    built (Builder.fuzzy (.str fragment) similarity)
  | .proximity first second distance => do
    let first ← filled data first
    let second ← filled data second
    built (Builder.proximity first second distance)
  | .boost body factor => do
    let fragment ← compile data body
    built (Builder.boost (.str fragment) factor)
  | .required body => do
    let fragment ← compile data body
    built (Builder.required (.str fragment))
  | .other v => .error (.noNode v.kind)

/-- The fragments of nodes from left to right. -/
def compileAll [Objects] (data : Value) : List Node → Except CompileError (List String)
  | [] => .ok []
  | node :: rest => do return (← compile data node) :: (← compileAll data rest)

end

section

variable [Objects] (data : Value)

theorem compile_term (text : Value) : compile data (.term text) = (do
    let words ← (render text data).mapError .render
    (Builder.term (.str words)).mapError .argument) := by
  show (filled data text >>= _) = _
  rw [filled]
  cases render text data <;> rfl

/-- A raw text is filled, and that is all. -/
@[simp] theorem compile_raw (text : Value) :
    compile data (.raw text) = (render text data).mapError .render := rfl

/-- The name of a field is filled before its query is compiled. -/
theorem compile_field (name : Value) (body : Node) : compile data (.field name body) = (do
    let name ← (render name data).mapError .render
    let fragment ← compile data body
    (Builder.field (.str name) (.str fragment)).mapError .argument) := by
  show (filled data name >>= _) = _
  rw [filled]
  cases render name data <;> rfl

/-- The operator is checked before any child is compiled. -/
theorem compile_boolean (operator : Value) (children : List Node) :
    compile data (.boolean operator children) = (do
      let op ← Operator.ofValue operator
      return op.joiner.write (← compileAll data children)) := rfl

/-- A group puts what its children give between parentheses. -/
theorem compile_group (children : List Node) :
    compile data (.group children) = (do
      return Fragment.group.write (← compileAll data children)) := rfl

/-- Both bounds are filled, the first one before the other. -/
theorem compile_range (start stop includeStart includeStop : Value) :
    compile data (.range start stop includeStart includeStop) = (do
      let start ← (render start data).mapError .render
      let stop ← (render stop data).mapError .render
      (Builder.range (.str start) (.str stop) includeStart includeStop).mapError .argument) := by
  show (filled data start >>= fun start => filled data stop >>= _) = _
  rw [filled, filled]
  cases render start data with
  | error e => rfl
  | ok start => cases render stop data <;> rfl

/-- The query is compiled before its similarity is checked. -/
theorem compile_fuzzy (body : Node) (similarity : Value) :
    compile data (.fuzzy body similarity) = (do
      let fragment ← compile data body
      (Builder.fuzzy (.str fragment) similarity).mapError .argument) := rfl

theorem compile_proximity (first second distance : Value) :
    compile data (.proximity first second distance) = (do
      let first ← (render first data).mapError .render
      let second ← (render second data).mapError .render
      (Builder.proximity (.str first) (.str second) distance).mapError .argument) := by
  show (filled data first >>= fun first => filled data second >>= _) = _
  rw [filled, filled]
  cases render first data with
  | error e => rfl
  | ok first => cases render second data <;> rfl

/-- The query is compiled before its factor is checked. -/
theorem compile_boost (body : Node) (factor : Value) :
    compile data (.boost body factor) = (do
      let fragment ← compile data body
      (Builder.boost (.str fragment) factor).mapError .argument) := rfl

/-- A mark stands in front of the query that is required. -/
theorem compile_required (body : Node) :
    compile data (.required body) = (do
      let fragment ← compile data body
      (Builder.required (.str fragment)).mapError .argument) := rfl

@[simp] theorem compileAll_nil : compileAll data [] = .ok [] := rfl

/-- Children are compiled in their order, and the first failure counts. -/
theorem compileAll_cons (node : Node) (rest : List Node) :
    compileAll data (node :: rest) = (do
      return (← compile data node) :: (← compileAll data rest)) := rfl

end

end Node

namespace Query

mutual

/-- A query as a node. -/
def toNode : Query → Node
  | .term text => .term (.str text)
  | .raw text => .raw (.str text)
  | .field name body => .field (.str name) body.toNode
  | .boolean op children => .boolean (.str op.word) (toNodes children)
  | .group children => .group (toNodes children)
  | .range start stop includeStart includeStop =>
    .range (.str start) (.str stop) (.bool includeStart) (.bool includeStop)
  | .fuzzy body similarity => .fuzzy body.toNode ((similarity.map Value.ofNumber).getD .null)
  | .proximity first second distance => .proximity (.str first) (.str second) (.ofNumber distance)
  | .boost body factor => .boost body.toNode (.ofNumber factor)
  | .required body => .required body.toNode

/-- Queries as nodes. -/
def toNodes : List Query → List Node
  | [] => []
  | q :: rest => q.toNode :: toNodes rest

end

/-- The text of a query over some data. -/
def compile [Objects] (q : Query) (data : Value) : Except CompileError String :=
  q.toNode.compile data

theorem toNodes_eq_map (qs : List Query) : toNodes qs = qs.map toNode := by
  induction qs with
  | nil => rfl
  | cons q rest ih => simp [toNodes, ih]

end Query

end QueryTemplates
