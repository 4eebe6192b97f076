import QueryTemplates.DataOptions

/-!
# Paths of files

A path is a root, which is empty for a path from the working directory, and names. Empty names and
single points have no meaning in a path and are dropped when it is read.

The files of the log are those of `SPEC_FULL.md` §10.1 (lines 151–157).
-/

namespace QueryTemplates

/-- A path of a file or directory. -/
structure FilePath where
  root : String
  names : List String
deriving DecidableEq

namespace FilePath

/-- The slashes a text begins with; three or more are one. -/
def rootOf (cs : List Char) : String :=
  match (cs.takeWhile (· == '/')).length with
  | 0 => ""
  | 2 => "//"
  | _ => "/"

/-- The path that a text names. -/
def ofText (text : String) : FilePath :=
  { root := rootOf text.toList
    names := ((splitAtChar '/' text.toList).map String.ofList).filter fun name =>
      name != "" && name != "." }

/-- The path as text; the working directory is a single point. -/
def text (path : FilePath) : String :=
  if path.root.isEmpty && path.names.isEmpty then "."
  else path.root ++ "/".intercalate path.names

/-- A path behind another one; a path with a root stands alone. -/
def append (path next : FilePath) : FilePath :=
  if next.root.isEmpty then ⟨path.root, path.names ++ next.names⟩ else next

/-- The names with every two points taken away together with the name in front of them, those taken
already being `kept`, the last one first. -/
def settleNames (kept : List String) : List String → List String
  | [] => kept.reverse
  | ".." :: rest =>
    match kept with
    | [] => settleNames [".."] rest
    | ".." :: _ => settleNames (".." :: kept) rest
    | _ :: before => settleNames before rest
  | name :: rest => settleNames (name :: kept) rest

/-- The path with the steps upwards taken, whatever is at the places they lead away from. Above a
root there is nothing. -/
def settled (path : FilePath) : FilePath :=
  let names := settleNames [] path.names
  ⟨path.root, if path.root.isEmpty then names else names.dropWhile (· == "..")⟩

/-- The path without its last name. -/
def parent (path : FilePath) : FilePath := ⟨path.root, path.names.dropLast⟩

/-- The paths that lead to a path, from the first name on to the path itself. -/
def lineage (path : FilePath) : List FilePath :=
  (List.range path.names.length).map fun n => ⟨path.root, path.names.take (n + 1)⟩

end FilePath

end QueryTemplates
