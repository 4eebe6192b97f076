import QueryTemplates.Markup.Error

/-!
# Nodes of documents

A document is a graph of nodes: scalars, sequences and mappings, each with a tag. The nodes are kept
in a table and the parts of a node are given by their numbers. An alias is one more way to the node
it names, so a node can be a part of several others, and even of itself.

Documents are those of `SPEC_FULL.md` §10.3 (lines 166–167).
-/

namespace QueryTemplates

/-- What a node is to be read as. -/
inductive Tag where
  | null
  | bool
  | int
  | float
  | str
  | timestamp
  | binary
  | sequence
  | mapping
  /-- A sequence of mappings with one entry each, read as pairs. -/
  | pairs
  /-- The keys of a mapping. -/
  | set
  /-- Entries of other mappings are taken over. -/
  | merge
  /-- The scalar that a mapping may be read as. -/
  | value
  | other (name : String)
deriving DecidableEq

namespace Tag

/-- What the names of common tags begin with. -/
def commonPart : String := "tag:yaml.org,2002:"

/-- The tag of a name. -/
def ofName (name : String) : Tag :=
  if commonPart.toList.isPrefixOf name.toList then
    match String.ofList (name.toList.drop commonPart.length) with
    | "null" => .null
    | "bool" => .bool
    | "int" => .int
    | "float" => .float
    | "str" => .str
    | "timestamp" => .timestamp
    | "binary" => .binary
    | "seq" => .sequence
    | "map" => .mapping
    | "omap" => .pairs
    | "pairs" => .pairs
    | "set" => .set
    | "merge" => .merge
    | "value" => .value
    | _ => .other name
  else .other name

end Tag

/-- What a node holds. -/
inductive NodeContent where
  | scalar (text : String)
  | sequence (items : List Nat)
  | mapping (entries : List (Nat × Nat))
deriving DecidableEq

/-- A node of a document. -/
structure MarkupNode where
  tag : Tag
  content : NodeContent
deriving DecidableEq

/-- The nodes of a document, numbered from zero. -/
structure NodeTable where
  nodes : Array MarkupNode := #[]

namespace NodeTable

/-- The node of a number; a number without a node stands for an empty scalar. -/
def node (table : NodeTable) (number : Nat) : MarkupNode :=
  (table.nodes[number]?).getD ⟨.null, .scalar ""⟩

/-- The tag of a node. -/
def tag (table : NodeTable) (number : Nat) : Tag := (table.node number).tag

/-- The entries of a node; only mappings have some. -/
def entries (table : NodeTable) (number : Nat) : List (Nat × Nat) :=
  match (table.node number).content with
  | .mapping entries => entries
  | _ => []

/-- The table with one more node, behind the number of that node. -/
def add (table : NodeTable) (node : MarkupNode) : Nat × NodeTable :=
  (table.nodes.size, ⟨table.nodes.push node⟩)

/-- The table with another node in the place of one. -/
def put (table : NodeTable) (number : Nat) (node : MarkupNode) : NodeTable :=
  ⟨table.nodes.setIfInBounds number node⟩

/-- The table with another tag for a node. -/
def putTag (table : NodeTable) (number : Nat) (tag : Tag) : NodeTable :=
  table.put number ⟨tag, (table.node number).content⟩

/-- The table with other entries for a node. -/
def putEntries (table : NodeTable) (number : Nat) (entries : List (Nat × Nat)) : NodeTable :=
  table.put number ⟨table.tag number, .mapping entries⟩

end NodeTable

/-- The nodes of a document and the number of the one at the root. -/
structure NodeGraph where
  table : NodeTable
  root : Nat

end QueryTemplates
