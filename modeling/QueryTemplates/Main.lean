import Std.Time.Zoned
import QueryTemplates.CommandLine.Run

/-!
# The program

The outer layer: it looks up what is at the paths that a command line is about, follows the command
line over that tree of files, and carries out what came of it.

Models `SPEC_FULL.md` §13 (lines 211–218).
-/

namespace QueryTemplates

/-- What is at a path. -/
def lookAt (path : FilePath) : IO (Option FileEntry) := do
  let place := (← IO.currentDir) / path.text
  if ← place.isDir then return some .directory
  if ← place.pathExists then return some (.file (← IO.FS.readBinFile place).toList)
  return none

/-- The tree with what is at a path and at those that lead to it. -/
def gather (tree : FileTree) (path : FilePath) : IO FileTree :=
  path.lineage.foldlM (fun tree path => do return tree.learn path (← lookAt path)) tree

/-- Gathers what a command line looks at. What is found first can lead to further paths. -/
def gatherFor (clock : Clock) (words : List String) (tree : FileTree) : IO FileTree := do
  (pathsLookedAt tree clock words).foldlM gather tree

/-- The moment by the clock of the machine. -/
def currentClock : IO Clock := do
  let now ← Std.Time.PlainDateTime.now
  return ⟨now.date.month.toNat, now.date.day.toNat, now.time.hour.toNat, now.time.minute.toNat,
    now.time.second.toNat⟩

/-- Writes a file and makes the directories that lead to it. -/
def writeFile (path : FilePath) (content : List UInt8) : IO Unit := do
  let here ← IO.currentDir
  IO.FS.createDirAll (here / path.parent.text)
  IO.FS.writeBinFile (here / path.text) ⟨content.toArray⟩

/-- Follows the command line and gives its exit code. -/
def runProgram (words : List String) : IO UInt32 := do
  let clock ← currentClock
  let files ← gatherFor clock words (← gatherFor clock words .empty)
  let outcome := runCommandLine { clock, files } words
  (FileTree.changes files outcome.state.files).forM fun (path, content) => writeFile path content
  IO.eprint outcome.console
  match outcome.escaped with
  | some (_, message) => IO.eprintln message
  | none => IO.print outcome.output
  return UInt32.ofNat outcome.exitCode

end QueryTemplates

/-- Runs the program on its arguments. -/
def main (words : List String) : IO UInt32 := QueryTemplates.runProgram words
