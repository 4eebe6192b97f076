import QueryTemplates.Markup.Node

/-!
# Entries taken over

An entry under the key for merging stands for the entries of another mapping, or of the mappings in
a sequence. Flattening a mapping puts those in front of its own, so that its own prevail, the first
mapping of a sequence being the next to prevail. The mappings that entries are taken from are
flattened before, in the table for all that hold them. Keys that are an equals sign are text from
then on.

Every entry for merging is taken away before the mapping it stands for is looked at; so flattening
ends also where a mapping takes over its own entries.

Documents are those of `SPEC_FULL.md` §10.3 (lines 166–167).
-/

namespace QueryTemplates

namespace NodeTable

/-- The entries in front of the first one for merging, the node that one stands for, and the entries
behind it. -/
def splitMerge (table : NodeTable) :
    List (Nat × Nat) → Option (List (Nat × Nat) × Nat × List (Nat × Nat))
  | [] => none
  | (key, value) :: rest =>
    if table.tag key = .merge then some ([], value, rest)
    else (splitMerge table rest).map fun (before, source, behind) =>
      ((key, value) :: before, source, behind)

/-- The table with the keys of entries read as text where they are an equals sign. -/
def nameValues (table : NodeTable) (entries : List (Nat × Nat)) : NodeTable :=
  entries.foldl (fun table (key, _) =>
    if table.tag key = .value then table.putTag key .str else table) table

mutual

/-- Flattens a mapping; `taken` are the entries taken over so far. There are at most `fuel` steps to
one mapping inside another. -/
def flattenWith (fuel : Nat) (table : NodeTable) (number : Nat) (taken : List (Nat × Nat)) :
    Except DocumentError NodeTable :=
  match fuel with
  | 0 => .ok table
  | fuel + 1 =>
    let entries := table.entries number
    match table.splitMerge entries with
    | none =>
      let table := table.nameValues entries
      .ok (if taken.isEmpty then table else table.putEntries number (taken ++ entries))
    | some (before, source, behind) => do
      let (table, more) ← takeFrom fuel (table.putEntries number (before ++ behind)) source
      flattenWith fuel table number (taken ++ more)

/-- The entries that a node gives away, and the table afterwards. -/
def takeFrom (fuel : Nat) (table : NodeTable) (source : Nat) :
    Except DocumentError (NodeTable × List (Nat × Nat)) :=
  match fuel with
  | 0 => .ok (table, [])
  | fuel + 1 =>
    match (table.node source).content with
    | .scalar _ => .error (.markup .wrongParts)
    | .mapping _ => do
      let table ← flattenWith fuel table source []
      return (table, table.entries source)
    | .sequence items => takeFromAll fuel table items

/-- The entries that mappings give away, those of the last one first. -/
def takeFromAll (fuel : Nat) (table : NodeTable) (items : List Nat) :
    Except DocumentError (NodeTable × List (Nat × Nat)) :=
  match fuel, items with
  | 0, _ => .ok (table, [])
  | _, [] => .ok (table, [])
  | fuel + 1, item :: rest =>
    match (table.node item).content with
    | .mapping _ => do
      let table ← flattenWith fuel table item []
      let own := table.entries item
      let (table, others) ← takeFromAll fuel table rest
      return (table, others ++ own)
    | _ => .error (.markup .wrongParts)

end

/-- The number of nodes and of their parts. -/
def partCount (table : NodeTable) : Nat :=
  table.nodes.foldl (fun count node => count + 1 + (match node.content with
    | .scalar _ => 0
    | .sequence items => items.length
    | .mapping entries => entries.length)) 0

/-- More steps than lead from one mapping inside another: there are two for every entry for merging
and one for every item of the sequence it stands for. -/
def flattenFuel (table : NodeTable) : Nat := table.partCount * (table.partCount + 2)

end NodeTable

end QueryTemplates
