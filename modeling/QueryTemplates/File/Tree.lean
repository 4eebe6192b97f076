import QueryTemplates.Category
import QueryTemplates.File.Path
import QueryTemplates.Text.Quoted
import QueryTemplates.Text.Utf8

/-!
# Trees of files

A tree holds directories and files with their bytes, each at a location: the names that lead to it
from the top. The working directory lies one step below the top, so that paths can lead out of it.
A path is walked name by name; every name but the last must lead to a directory.

The files of the log are those of `SPEC_FULL.md` §10.1 (lines 151–157).
-/

namespace QueryTemplates

/-- What is at a location of a tree. -/
inductive FileEntry where
  | directory
  | file (content : List UInt8)
deriving DecidableEq

/-- Why the file system refuses a path. -/
inductive FileFault where
  | noFile
  | exists
  | notDirectory
  | isDirectory
  | nameTooLong
  /-- The path holds a character that no path may hold. -/
  | nullByte
deriving DecidableEq

/-- A refused path. -/
structure FileError where
  fault : FileFault
  path : String
deriving DecidableEq

/-- The refusal in words. -/
def FileError.message (e : FileError) : String :=
  let numbered (number : Nat) (words : String) : String :=
    "[Errno " ++ toString number ++ "] " ++ words ++ ": " ++ quoted e.path
  match e.fault with
  | .noFile => numbered 2 "No such file or directory"
  | .exists => numbered 17 "File exists"
  | .notDirectory => numbered 20 "Not a directory"
  | .isDirectory => numbered 21 "Is a directory"
  | .nameTooLong => numbered 36 "File name too long"
  | .nullByte => "embedded null byte"

/-- The category of the refusal. -/
def FileError.category (e : FileError) : Category :=
  match e.fault with
  | .noFile => .noFile
  | .exists => .fileExists
  | .notDirectory => .notDirectory
  | .isDirectory => .isDirectory
  | .nameTooLong => .system
  | .nullByte => .badValue

/-- The names that lead from the top to a place. -/
abbrev Location := List String

/-- Directories and files with their locations. -/
structure FileTree where
  entries : List (Location × FileEntry)

namespace FileTree

/-- The working directory. -/
def workingDirectory : Location := ["."]

/-- What is at a location; the top is a directory. -/
def entry? (tree : FileTree) (location : Location) : Option FileEntry :=
  if location.isEmpty then some .directory else tree.entries.lookup location

/-- The tree with an entry at a location. -/
def put (tree : FileTree) (location : Location) (entry : FileEntry) : FileTree :=
  ⟨replace tree.entries⟩
where
  /-- The entries with the one at the location replaced or added behind all. -/
  replace : List (Location × FileEntry) → List (Location × FileEntry)
    | [] => [(location, entry)]
    | (l, e) :: rest => if l = location then (location, entry) :: rest else (l, e) :: replace rest

/-- A tree with an empty working directory. -/
def empty : FileTree := ⟨[(workingDirectory, .directory)]⟩

/-- The greatest number of bytes of a name. -/
def longestName : Nat := 255

/-- The number of bytes that no path reaches. -/
def pathLimit : Nat := 4096

/-- The location that a name leads to; two points lead upwards. -/
def stepTo (location : Location) (name : String) : Location :=
  if name = ".." then location.dropLast else location ++ [name]

/-- The location that names lead to from a location. All but the last lead to directories. -/
def walk (tree : FileTree) (location : Location) : List String → Except FileFault Location
  | [] => .ok location
  | name :: rest =>
    match tree.entry? location with
    | none => .error .noFile
    | some (.file _) => .error .notDirectory
    | some .directory =>
      if longestName < name.utf8ByteSize then .error .nameTooLong
      else walk tree (stepTo location name) rest

/-- The location of a path. -/
def locate (tree : FileTree) (path : FilePath) : Except FileError Location :=
  let refuse (fault : FileFault) : FileError := ⟨fault, path.text⟩
  if path.text.toList.contains '\x00' then .error (refuse .nullByte)
  else if pathLimit ≤ path.text.utf8ByteSize then .error (refuse .nameTooLong)
  else (tree.walk (if path.root.isEmpty then workingDirectory else []) path.names).mapError refuse

/-- The path leads to a directory. -/
def isDirectory (tree : FileTree) (path : FilePath) : Bool :=
  match tree.locate path with
  | .ok location => tree.entry? location == some .directory
  | .error _ => false

/-- Makes a directory in a directory that is there. -/
def makeDirectory (tree : FileTree) (path : FilePath) : Except FileError FileTree := do
  let location ← tree.locate path
  match tree.entry? location with
  | none => return tree.put location .directory
  | some _ => throw ⟨.exists, path.text⟩

/-- Makes a directory unless it is there. -/
def ensureDirectory (tree : FileTree) (path : FilePath) : Except FileError FileTree :=
  match tree.makeDirectory path with
  | .ok made => .ok made
  | .error e =>
    if e.fault != .noFile && tree.isDirectory path then .ok tree else .error e

/-- Makes a directory and those that lead to it unless they are there. What was made on the way
stays if a later one is refused. -/
def ensureDirectories (tree : FileTree) (path : FilePath) : FileTree × Except FileError Unit :=
  match tree.ensureDirectory path with
  | .ok made => (made, .ok ())
  | .error e =>
    if _more : e.fault = .noFile ∧ path.names ≠ [] then
      match tree.ensureDirectories path.parent with
      | (tree, .error e) => (tree, .error e)
      | (tree, .ok ()) =>
        match tree.ensureDirectory path with
        | .ok made => (made, .ok ())
        | .error e => (tree, .error e)
    else (tree, .error e)
termination_by path.names.length
decreasing_by
  have := List.length_pos_iff.2 _more.2
  simp only [FilePath.parent, List.length_dropLast]
  omega

/-- Opens a file for appending, making it if it is not there, and gives its location. -/
def openToAppend (tree : FileTree) (path : FilePath) : Except FileError (FileTree × Location) := do
  let location ← tree.locate path
  match tree.entry? location with
  | none => return (tree.put location (.file []), location)
  | some (.file _) => return (tree, location)
  | some .directory => throw ⟨.isDirectory, path.text⟩

/-- The bytes of a file. -/
def read (tree : FileTree) (path : FilePath) : Except FileError (List UInt8) := do
  let location ← tree.locate path
  match tree.entry? location with
  | none => throw ⟨.noFile, path.text⟩
  | some (.file content) => return content
  | some .directory => throw ⟨.isDirectory, path.text⟩

/-- Writes text behind what a file holds. -/
def append (tree : FileTree) (location : Location) (text : String) : FileTree :=
  match tree.entry? location with
  | some (.file content) => tree.put location (.file (content ++ encodeUtf8 text))
  | _ => tree

/-- Puts a file at a path from the working directory, together with the directories that lead to
it. -/
def putFile (tree : FileTree) (path : String) (content : List UInt8) : FileTree :=
  let location := workingDirectory ++ (FilePath.ofText path).names
  let leading := (List.range location.length).map fun n => location.take n
  let tree := leading.foldl (fun tree l => if l.isEmpty then tree else tree.put l .directory) tree
  tree.put location (.file content)

/-- The files under the working directory, in the order of their paths from there. -/
def files (tree : FileTree) : List (String × List UInt8) :=
  let found := tree.entries.filterMap fun (location, entry) =>
    match location, entry with
    | top :: names, .file content =>
      if [top] == workingDirectory then some ("/".intercalate names, content) else none
    | _, _ => none
  found.mergeSort fun a b => decide (a.1 ≤ b.1)

/-- The tree with what was found at a path, provided that the directories leading to it are
known. -/
def learn (tree : FileTree) (path : FilePath) : Option FileEntry → FileTree
  | none => tree
  | some entry =>
    match tree.locate path with
    | .ok location => if (tree.entry? location).isSome then tree else tree.put location entry
    | .error _ => tree

/-- The path of a location. -/
def pathTo (location : Location) : FilePath :=
  match location with
  | top :: names => if [top] == workingDirectory then ⟨"", names⟩ else ⟨"/", location⟩
  | [] => ⟨"/", []⟩

/-- The files of a tree that another one does not hold with the same content. -/
def changes (before after : FileTree) : List (FilePath × List UInt8) :=
  after.entries.filterMap fun (location, entry) =>
    match entry with
    | .file content =>
      if before.entry? location == some entry then none else some (pathTo location, content)
    | .directory => none

end FileTree

end QueryTemplates
