import QueryTemplates.Markup.Flatten
import QueryTemplates.Markup.Scalar
import QueryTemplates.Value.Mapping
import QueryTemplates.Value.MemberOrder

/-!
# Drafts of values

A node is read as its tag says. What comes of it is a draft: a value whose parts are given by the
numbers of their nodes. Every node is read once, however many ways lead to it. Collections are
noted when they are met, and their parts are read level by level, so the fault that is found is the
one nearest to the root, and of those as near the first.

Documents are those of `SPEC_FULL.md` §10.3 (lines 166–167).
-/

namespace QueryTemplates

/-- The value of a node, with the numbers of nodes in the place of its parts. -/
inductive Draft where
  | scalar (value : Scalar)
  | list (items : List Nat)
  | pairs (items : List (Nat × Nat))
  | set (members : List Scalar)
  | map (entries : List (Scalar × Nat))
deriving DecidableEq

namespace NodeTable

/-- The text that a node is read as: a scalar's own, or that of the entry of a mapping under an
equals sign. A mapping may lead back to itself; there are `fuel` steps at most. -/
def scalarText (fuel : Nat) (table : NodeTable) (number : Nat) : Except DocumentError String :=
  match fuel with
  | 0 => .error .endless
  | fuel + 1 =>
    match (table.node number).content with
    | .scalar text => .ok text
    | .sequence _ => .error (.markup .wrongParts)
    | .mapping entries =>
      match entries.find? fun (key, _) => table.tag key = .value with
      | some (_, value) => scalarText fuel table value
      | none => .error (.markup .wrongParts)

/-- The value of a node that is read by its text. -/
def textValue (table : NodeTable) (number : Nat) : Except DocumentError Scalar := do
  let node := table.node number
  match node.tag with
  | .merge | .value | .other _ => throw (.markup .unknownTag)
  | _ => pure ()
  let text ← table.scalarText (table.nodes.size + 1) number
  match node.tag, node.content with
  | .timestamp, .mapping _ => throw .timestampParts
  | tag, _ => scalarValue tag number text

end NodeTable

/-- The tag reads the parts of a node, and not its text. -/
def Tag.readsParts : Tag → Bool
  | .sequence | .mapping | .pairs | .set => true
  | _ => false

/-- The nodes, the drafts that are there, and the collections that are noted, the last one first. -/
structure Drafting where
  table : NodeTable
  drafts : Array (Option Draft)
  noted : List Nat := []
  /-- More steps than flattening a mapping takes. -/
  fuel : Nat

namespace Drafting

/-- The draft of a node, if it was read. -/
def draft? (d : Drafting) (number : Nat) : Option Draft := (d.drafts[number]?).join

/-- The drafting with the draft of a node. -/
def put (d : Drafting) (number : Nat) (draft : Draft) : Drafting :=
  { d with drafts := d.drafts.setIfInBounds number (some draft) }

/-- Reads a node, but not the parts of a collection. -/
def visit (d : Drafting) (number : Nat) : Except DocumentError Drafting :=
  if (d.draft? number).isSome then .ok d
  else if (d.table.tag number).readsParts then
    .ok { d.put number (.list []) with noted := number :: d.noted }
  else do
    return d.put number (.scalar (← d.table.textValue number))

/-- The scalar of a node that is a key. -/
def key (d : Drafting) (number : Nat) : Except DocumentError Scalar :=
  match d.draft? number with
  | some (.scalar s) => .ok s
  | _ => .error (.markup .keyWithParts)

/-- Reads the keys and values of entries, and gives the entries with their keys. -/
def visitEntries (d : Drafting) (entries : List (Nat × Nat)) :
    Except DocumentError (Drafting × List (Scalar × Nat)) := do
  let (d, read) ← entries.foldlM (fun (d, read) (key, value) => do
    let d ← d.visit key
    let name ← d.key key
    let d ← d.visit value
    return (d, (name, value) :: read)) (d, ([] : List (Scalar × Nat)))
  return (d, read.reverse)

/-- Flattens a mapping and reads its entries. -/
def visitMapping (d : Drafting) (number : Nat) :
    Except DocumentError (Drafting × List (Scalar × Nat)) := do
  let table ← d.table.flattenWith d.fuel number []
  visitEntries { d with table } (table.entries number)

/-- Reads the one entry of a mapping. -/
def visitPair (d : Drafting) (number : Nat) : Except DocumentError (Drafting × Nat × Nat) :=
  match (d.table.node number).content with
  | .mapping [(key, value)] => do
    let d ← d.visit key
    return (← d.visit value, key, value)
  | _ => .error (.markup .wrongParts)

/-- The members of a set that has the keys, of which equal ones are one. -/
def membersOf (keys : List Scalar) : List Scalar :=
  orderMembers (Mapping.keys (Mapping.ofEntries (keys.map (·, .null))))

/-- Reads the parts of a collection that was noted. -/
def complete (d : Drafting) (number : Nat) : Except DocumentError Drafting := do
  match d.table.tag number, (d.table.node number).content with
  | .sequence, .sequence items =>
    return (← items.foldlM visit d).put number (.list items)
  | .mapping, .mapping _ =>
    let (d, entries) ← d.visitMapping number
    return d.put number (.map entries)
  | .set, .mapping _ =>
    let (d, entries) ← d.visitMapping number
    return d.put number (.set (membersOf (entries.map (·.1))))
  | .pairs, .sequence items =>
    let (d, pairs) ← items.foldlM (fun (d, pairs) item => do
      let (d, key, value) ← d.visitPair item
      return (d, (key, value) :: pairs)) (d, ([] : List (Nat × Nat)))
    return d.put number (.pairs pairs.reverse)
  | _, _ => throw (.markup .wrongParts)

/-- Reads the parts of the collections that were noted, then those of the collections found there,
and so on for `levels` levels. -/
def completeAll (levels : Nat) (d : Drafting) : Except DocumentError Drafting :=
  match levels with
  | 0 => .ok d
  | levels + 1 =>
    if d.noted.isEmpty then .ok d
    else do
      completeAll levels (← d.noted.reverse.foldlM complete { d with noted := [] })

end Drafting

/-- The drafts of the nodes that the root leads to. Every level has a node at least. -/
def NodeGraph.drafts (graph : NodeGraph) : Except DocumentError (Array (Option Draft)) := do
  let size := graph.table.nodes.size
  let start : Drafting :=
    { table := graph.table
      drafts := Array.replicate size none
      fuel := graph.table.flattenFuel }
  let d ← (← start.visit graph.root).completeAll (size + 1)
  return d.drafts

end QueryTemplates
