import QueryTemplates.File.Tree
import QueryTemplates.Proofs.Outcome

/-!
# Files that only grow

Making directories and opening a file for appending take nothing away from a tree: every file stays
a file and keeps what it holds. Text that is appended to a file stands behind what the file held,
and no other file changes.

About the files of `SPEC_FULL.md` §10.1 (lines 151–157).
-/

namespace QueryTemplates

namespace FileTree

/-! ### What is found after an entry was put -/

theorem lookup_cons_eq_if (l k : Location) (e : FileEntry) (rest : List (Location × FileEntry)) :
    ((k, e) :: rest).lookup l = if l = k then some e else rest.lookup l := by
  rw [List.lookup_cons]
  by_cases h : l = k
  · rw [if_pos h, beq_iff_eq.mpr h]
  · rw [if_neg h, beq_eq_false_iff_ne.mpr h]

/-- Replacing an entry changes what is found there and nowhere else. -/
theorem lookup_replace (location : Location) (entry : FileEntry)
    (entries : List (Location × FileEntry)) (l : Location) :
    (put.replace location entry entries).lookup l
      = if l = location then some entry else entries.lookup l := by
  induction entries with
  | nil => rw [put.replace, lookup_cons_eq_if]
  | cons first rest ih =>
    obtain ⟨k, e⟩ := first
    rw [put.replace]
    by_cases hk : k = location
    · subst hk
      rw [if_pos rfl, lookup_cons_eq_if, lookup_cons_eq_if]
      split
      · rfl
      · rfl
    · rw [if_neg hk, lookup_cons_eq_if, lookup_cons_eq_if, ih]
      by_cases hl : l = location
      · subst hl
        rw [if_neg (Ne.symm hk), if_pos rfl, if_pos rfl]
      · rw [if_neg hl, if_neg hl]

/-- An entry is found where it was put, and all others where they were. -/
theorem entry?_put (tree : FileTree) {location : Location} (hlocation : location ≠ [])
    (entry : FileEntry) (l : Location) :
    FileTree.entry? (tree.put location entry) l
      = if l = location then some entry else tree.entry? l := by
  rw [ entry?, entry?, put, lookup_replace]
  cases l with
  | nil =>
    show some FileEntry.directory = if [] = location then some entry else some .directory
    rw [if_neg (Ne.symm hlocation)]
  | cons name rest => rfl

/-- What is no directory does not stand at the top. -/
theorem ne_nil_of_entry {tree : FileTree} {location : Location} {found : Option FileEntry}
    (h : tree.entry? location = found) (hfound : found ≠ some .directory) : location ≠ [] := by
  rintro rfl
  exact hfound h.symm

/-! ### Growth -/

/-- The bytes of the file at a location; where there is no file there are none. -/
def content (tree : FileTree) (location : Location) : List UInt8 :=
  match tree.entry? location with
  | some (.file bytes) => bytes
  | _ => []

/-- There is a file at the location. -/
def IsFile (tree : FileTree) (location : Location) : Prop :=
  ∃ bytes, tree.entry? location = some (.file bytes)

/-- Every file of the first tree is a file of the second one and holds there what it held, and maybe
more behind it. -/
def GrowsTo (before after : FileTree) : Prop :=
  ∀ location, before.IsFile location →
    after.IsFile location ∧ before.content location <+: after.content location

/-- The content of a file is what its entry holds. -/
theorem content_of_entry {tree : FileTree} {location : Location} {bytes : List UInt8}
    (h : tree.entry? location = some (.file bytes)) : tree.content location = bytes := by
  rw [content, h]

theorem content_of_not_isFile {tree : FileTree} {location : Location}
    (h : ¬tree.IsFile location) : tree.content location = [] := by
  rw [content]
  split
  · next bytes hbytes => exact absurd ⟨bytes, hbytes⟩ h
  · rfl

theorem GrowsTo.refl (tree : FileTree) : tree.GrowsTo tree := by
  intro location hfile
  exact ⟨hfile, List.prefix_refl _⟩

/-- What grows twice grows. -/
theorem GrowsTo.trans {first second third : FileTree} (h : first.GrowsTo second)
    (h' : second.GrowsTo third) : first.GrowsTo third := by
  intro location hfile
  obtain ⟨hsecond, hgrown⟩ := h location hfile
  obtain ⟨hthird, hgrown'⟩ := h' location hsecond
  exact ⟨hthird, hgrown.trans hgrown'⟩

/-- Appended text stands behind what the file held, and nowhere else. -/
theorem content_append {tree : FileTree} {location : Location} (h : tree.IsFile location)
    (text : String) (l : Location) :
    (tree.append location text).content l
      = tree.content l ++ if l = location then encodeUtf8 text else [] := by
  obtain ⟨bytes, hbytes⟩ := h
  rw [append, hbytes]
  show (tree.put location (.file (bytes ++ encodeUtf8 text))).content l = _
  rw [content, entry?_put tree (ne_nil_of_entry hbytes (by simp))]
  by_cases hl : l = location
  · subst hl
    rw [if_pos rfl, if_pos rfl, content_of_entry hbytes]
  · rw [if_neg hl, if_neg hl, List.append_nil]
    rfl

/-- Where there is no file, nothing is appended. -/
theorem append_of_not_isFile {tree : FileTree} {location : Location} (h : ¬tree.IsFile location)
    (text : String) : tree.append location text = tree := by
  rw [append]
  split
  · next bytes hbytes => exact absurd ⟨bytes, hbytes⟩ h
  · rfl

/-- The file that text is appended to has it at its end, and every other entry is what it was. -/
theorem entry?_append {tree : FileTree} {location : Location} {bytes : List UInt8}
    (h : tree.entry? location = some (.file bytes)) (text : String) (l : Location) :
    FileTree.entry? (tree.append location text) l
      = if l = location then some (.file (bytes ++ encodeUtf8 text)) else tree.entry? l := by
  rw [append, h]
  exact entry?_put tree (ne_nil_of_entry h (by simp)) _ l

/-- Writing text somewhere takes nothing away; where there is no file it does nothing. -/
theorem growsTo_append (tree : FileTree) (location : Location) (text : String) :
    tree.GrowsTo (tree.append location text) := by
  by_cases h : tree.IsFile location
  · intro l hfile
    rw [content_append h]
    refine ⟨?_, List.prefix_append _ _⟩
    obtain ⟨bytes, hbytes⟩ := h
    rw [IsFile]
    simp only [entry?_append hbytes]
    split
    · exact ⟨_, rfl⟩
    · exact hfile
  · rw [append_of_not_isFile h]
    exact GrowsTo.refl tree

/-! ### The same files -/

/-- Both trees have the same files, and these hold the same; the directories may be others. -/
def SameFiles (tree other : FileTree) : Prop :=
  ∀ location bytes,
    tree.entry? location = some (.file bytes) ↔ other.entry? location = some (.file bytes)

namespace SameFiles

variable {tree other third : FileTree}

theorem refl (tree : FileTree) : tree.SameFiles tree := fun _ _ => Iff.rfl

theorem trans (h : tree.SameFiles other) (h' : other.SameFiles third) : tree.SameFiles third :=
  fun l bytes => (h l bytes).trans (h' l bytes)

theorem isFile_iff (h : tree.SameFiles other) (location : Location) :
    tree.IsFile location ↔ other.IsFile location :=
  exists_congr fun bytes => h location bytes

/-- Each file holds the same. -/
theorem content_eq (h : tree.SameFiles other) (location : Location) :
    tree.content location = other.content location := by
  by_cases hfile : tree.IsFile location
  · obtain ⟨bytes, hbytes⟩ := hfile
    rw [content_of_entry hbytes, content_of_entry ((h location bytes).mp hbytes)]
  · rw [content_of_not_isFile hfile, content_of_not_isFile (mt (h.isFile_iff location).mpr hfile)]

/-- The same text behind the same file gives the same files. -/
theorem append (h : tree.SameFiles other) (location : Location) (text : String) :
    (tree.append location text).SameFiles (other.append location text) := by
  by_cases hfile : tree.IsFile location
  · obtain ⟨bytes, hbytes⟩ := hfile
    intro l content
    rw [entry?_append hbytes, entry?_append ((h location bytes).mp hbytes)]
    split
    · exact Iff.rfl
    · exact h l content
  · rw [append_of_not_isFile hfile,
      append_of_not_isFile (mt (h.isFile_iff location).mpr hfile)]
    exact h

/-- A new directory changes no file. -/
theorem putDirectory {location : Location} (h : tree.entry? location = none) :
    tree.SameFiles (tree.put location .directory) := by
  intro l bytes
  rw [entry?_put tree (ne_nil_of_entry h (by simp))]
  split
  · next hl => simp [hl, h]
  · exact Iff.rfl

end SameFiles

/-! ### Directories -/

variable {tree made : FileTree} {path : FilePath}

theorem sameFiles_makeDirectory (h : tree.makeDirectory path = .ok made) :
    tree.SameFiles made := by
  obtain ⟨location, -, h⟩ := bind_eq_ok_iff.mp h
  cases hentry : tree.entry? location with
  | none =>
    rw [hentry] at h
    obtain rfl := Except.ok.inj h
    exact .putDirectory hentry
  | some entry =>
    rw [hentry] at h
    cases h

theorem sameFiles_ensureDirectory (h : tree.ensureDirectory path = .ok made) :
    tree.SameFiles made := by
  rw [ensureDirectory] at h
  split at h
  · next hmade =>
    obtain rfl := Except.ok.inj h
    exact sameFiles_makeDirectory hmade
  · split at h
    · obtain rfl := Except.ok.inj h
      exact .refl tree
    · cases h

/-- The directories that lead to a path are made from the top, each in the one before. -/
theorem sameFiles_ensureDirectories (tree : FileTree) (path : FilePath) :
    tree.SameFiles (tree.ensureDirectories path).1 := by
  induction path using ensureDirectories.induct tree with
  | case1 path made hfound =>
    rw [ensureDirectories, hfound]
    exact sameFiles_ensureDirectory hfound
  | case2 path e hfound hmore parents e' hparents ih =>
    rw [hparents] at ih
    rw [ensureDirectories, hfound]
    simp only [dif_pos hmore, hparents]
    exact ih
  | case3 path e hfound hmore parents hparents made hmade ih =>
    rw [hparents] at ih
    rw [ensureDirectories, hfound]
    simp only [dif_pos hmore, hparents, hmade]
    exact ih.trans (sameFiles_ensureDirectory hmade)
  | case4 path e hfound hmore parents hparents e' hrefused ih =>
    rw [hparents] at ih
    rw [ensureDirectories, hfound]
    simp only [dif_pos hmore, hparents, hrefused]
    exact ih
  | case5 path e hfound hmore =>
    rw [ensureDirectories, hfound]
    simp only [dif_neg hmore]
    exact .refl tree

/-! ### Opened files -/

/-- If a file was opened it is there with what it held, and all others are the same. -/
def Opens (before after : FileTree) (file : Option Location) : Prop :=
  ∀ location bytes, after.entry? location = some (.file bytes) ↔
    if file = some location then bytes = before.content location
    else before.entry? location = some (.file bytes)

namespace Opens

variable {before after before' after' : FileTree} {file : Option Location}

/-- Where nothing is opened, the files stay the same. -/
theorem of_sameFiles (h : before.SameFiles after) : before.Opens after none := by
  intro location bytes
  rw [if_neg (by simp)]
  exact (h location bytes).symm

/-- What opens no file leaves the files the same. -/
theorem sameFiles (h : before.Opens after none) : before.SameFiles after := by
  intro location bytes
  rw [h location bytes, if_neg (by simp)]

/-- Opening the same file keeps the files of two trees the same. -/
theorem sameFiles_of_sameFiles (h : before.Opens after file) (h' : before'.Opens after' file)
    (hbefore : before.SameFiles before') : after.SameFiles after' := by
  intro location bytes
  rw [h location bytes, h' location bytes, hbefore.content_eq, hbefore location bytes]

/-- Directories made before a file is opened make no difference to the opening. -/
theorem trans_sameFiles (h : before'.Opens after file) (hbefore : before.SameFiles before') :
    before.Opens after file := by
  intro location bytes
  rw [h location bytes, hbefore.content_eq, hbefore location bytes]

/-- A file that was opened is there. -/
theorem isFile {location : Location} (h : before.Opens after (some location)) :
    after.IsFile location :=
  ⟨before.content location, (h location _).mpr (by rw [if_pos rfl])⟩

/-- Opening a file takes nothing away. -/
theorem growsTo (h : before.Opens after file) : before.GrowsTo after := by
  rintro location ⟨bytes, hbytes⟩
  have hkept : after.entry? location = some (.file bytes) := by
    rw [h location bytes]
    split
    · exact (content_of_entry hbytes).symm
    · exact hbytes
  rw [content_of_entry hbytes, content_of_entry hkept]
  exact ⟨⟨bytes, hkept⟩, List.prefix_refl _⟩

end Opens

/-- Opening a file to append makes it, if it was not there, and changes no other. -/
theorem opens_openToAppend {location : Location}
    (h : tree.openToAppend path = .ok (made, location)) : tree.Opens made (some location) := by
  obtain ⟨found, -, h⟩ := bind_eq_ok_iff.mp h
  intro l bytes
  simp only [Option.some.injEq]
  cases hentry : tree.entry? found with
  | none =>
    rw [hentry] at h
    obtain ⟨rfl, rfl⟩ := Prod.mk.inj (Except.ok.inj h)
    rw [entry?_put tree (ne_nil_of_entry hentry (by simp))]
    by_cases hl : l = found
    · subst hl
      rw [if_pos rfl, if_pos rfl, content, hentry]
      simp [eq_comm]
    · rw [if_neg hl, if_neg (Ne.symm hl)]
  | some entry =>
    rw [hentry] at h
    cases entry with
    | file held =>
      obtain ⟨rfl, rfl⟩ := Prod.mk.inj (Except.ok.inj h)
      by_cases hl : found = l
      · subst hl
        rw [if_pos rfl, hentry, content_of_entry hentry]
        simp [eq_comm]
      · rw [if_neg hl]
    | directory => cases h

end FileTree

end QueryTemplates
