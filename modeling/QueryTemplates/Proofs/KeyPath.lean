import Mathlib.Data.List.TakeWhile
import QueryTemplates.Proofs.DataOptions.Reading
import QueryTemplates.Proofs.Placeholder.Name
import QueryTemplates.Proofs.Placeholder.Render
import QueryTemplates.Proofs.Text.Blank
import QueryTemplates.Proofs.Text.Joined
import QueryTemplates.Proofs.Value.Path

/-!
# Paths of identifiers

A path of identifiers can be written in an option, with points between the keys, and in a
placeholder, with all keys but the first in square brackets. Both are read back as the path: the
option assigns its text there, and the placeholder finds what is there.

About `SPEC_FULL.md` §11 (lines 202–203) and §13 (lines 213–215).
-/

namespace QueryTemplates

/-- A path of at least one key, each of which is an identifier. -/
structure KeyPath where
  first : String
  rest : List String
  identifiers : ∀ key ∈ first :: rest, isIdentifier key = true

namespace KeyPath

/-- The keys from the outermost mapping inwards. -/
def keys (path : KeyPath) : List String := path.first :: path.rest

/-- The option that lays a text at the path. -/
def option (path : KeyPath) (value : String) : String :=
  ".".intercalate path.keys ++ "=" ++ value

/-- A key as a step of a placeholder. -/
def bracketed (key : String) : String := "[" ++ key ++ "]"

/-- The placeholder for what is found along the path. -/
def placeholder (path : KeyPath) : String :=
  "\x7b" ++ path.first ++ String.join (path.rest.map bracketed) ++ "\x7d"

end KeyPath

/-! ### Options -/

namespace KeyPath

/-- The keys with points between them. -/
def dotted (path : KeyPath) : List Char := ['.'].intercalate (path.keys.map String.toList)

variable (path : KeyPath)

/-- What holds of points and of the characters of identifiers holds of all in a dotted path. -/
theorem forall_mem_dotted {P : Char → Prop} (hpoint : P '.')
    (hkeys : ∀ c, isIdentifierChar c = true → P c) : ∀ c ∈ path.dotted, P c := by
  refine forall_mem_intercalate (by simpa using hpoint) fun part hpart c hc => ?_
  obtain ⟨key, hkey, rfl⟩ := List.mem_map.mp hpart
  exact hkeys c (isIdentifierChar_of_mem (path.identifiers key hkey) c hc)

theorem toList_intercalate_keys : (".".intercalate path.keys).toList = path.dotted := by
  rw [String.toList_intercalate]
  rfl

theorem pathOf_dotted : Assignment.pathOf path.dotted = path.keys := by
  have hblank : ∀ c ∈ path.dotted, isBlank c = false :=
    path.forall_mem_dotted (by decide) fun _ => isBlank_of_isIdentifierChar
  have hpoint : ∀ part ∈ path.keys.map String.toList, '.' ∉ part := by
    intro part hpart
    obtain ⟨key, hkey, rfl⟩ := List.mem_map.mp hpart
    exact notMem_of_isIdentifier (path.identifiers key hkey) (by decide)
  have hparts : splitAtChar '.' path.dotted = path.keys.map String.toList := by
    rw [splitAtChar_eq_splitOn, dotted, List.splitOn_intercalate '.' hpoint (by simp [keys])]
  have hfull : (path.keys.map String.toList).filter (!·.isEmpty) = path.keys.map String.toList := by
    rw [List.filter_eq_self]
    intro part hpart
    obtain ⟨key, hkey, rfl⟩ := List.mem_map.mp hpart
    simpa using toList_ne_nil_of_isIdentifier (path.identifiers key hkey)
  rw [Assignment.pathOf, stripBlank_of_no_blank hblank, hparts, hfull, List.map_map]
  simp [Function.comp_def]

/-- The option of a path assigns its text to the path, whatever the text is. -/
theorem parse_option (value : String) :
    Assignment.parse (path.option value) = .ok ⟨path.keys, value⟩ := by
  -- the first equals sign is the one behind the keys, however many the text has
  have hequals : '=' ∉ (".".intercalate path.keys).toList := by
    rw [toList_intercalate_keys]
    intro hmem
    exact path.forall_mem_dotted (by decide) (fun c hc => ne_of_isIdentifierChar hc (by decide))
      '=' hmem rfl
  have hparts : keyParts (".".intercalate path.keys) = path.keys := by
    rw [← Assignment.pathOf_toList, toList_intercalate_keys, pathOf_dotted]
  rw [option, Assignment.parse_append_equals hequals, hparts, if_neg (by simp [keys])]

/-! ### Placeholders -/

/-- Keys as steps of a placeholder. -/
def brackets (keys : List String) : List Char := keys.flatMap fun key => (bracketed key).toList

theorem brackets_cons (key : String) (keys : List String) :
    brackets (key :: keys) = '[' :: (key.toList ++ ']' :: brackets keys) := by
  simp [brackets, bracketed]

/-- Brackets around identifiers are read as part of a name. -/
theorem readName_brackets {keys : List String} (hkeys : ∀ key ∈ keys, isIdentifier key = true)
    (behind : List Char) :
    readName false (brackets keys ++ '\x7d' :: behind) = .ok (brackets keys, '\x7d', behind) := by
  induction keys with
  | nil => rfl
  | cons key keys ih =>
    obtain ⟨hkey, hkeys⟩ := List.forall_mem_cons.mp hkeys
    rw [brackets_cons, List.cons_append, List.append_assoc]
    refine readName_false_cons (by decide) ?_
    exact readName_bracket (notMem_of_isIdentifier hkey (by decide)) (ih hkeys)

theorem readAccesses_brackets {keys : List String}
    (hkeys : ∀ key ∈ keys, isIdentifier key = true) :
    readAccesses (brackets keys) = keys.map .key := by
  induction keys with
  | nil => exact readAccesses_nil
  | cons key keys ih =>
    obtain ⟨hkey, hkeys⟩ := List.forall_mem_cons.mp hkeys
    rw [brackets_cons, readAccesses_bracket (notMem_of_isIdentifier hkey (by decide)), ih hkeys,
      bracketAccess, indexOf?_of_isIdentifier hkey]
    simp [toList_ne_nil_of_isIdentifier hkey]

/-- What stands in the braces of the placeholder. -/
def name : List Char := path.first.toList ++ brackets path.rest

/-- The placeholder of a path is its name in braces. -/
theorem toList_placeholder : path.placeholder.toList = '\x7b' :: (path.name ++ ['\x7d']) := by
  simp only [placeholder, name, brackets, String.toList_append, String.toList_join,
    List.flatMap_map, List.append_assoc]
  rfl

/-- The placeholder as it is read: it is a name and nothing else. -/
def field : Field := ⟨path.name, none, [], false⟩

/-- The name as it is read: a key and steps by keys. -/
def fieldName : FieldName := ⟨path.first, path.rest.map .key⟩

/-- The name of a path is read up to its brace. -/
theorem readField_name (behind : List Char) :
    readField (path.name ++ '\x7d' :: behind) = .ok (path.field, behind) := by
  obtain ⟨hfirst, hrest⟩ := List.forall_mem_cons.mp path.identifiers
  have hread : readName false (path.name ++ '\x7d' :: behind)
      = .ok (path.name, '\x7d', behind) := by
    rw [name, List.append_assoc]
    exact readName_word (isIdentifierChar_of_mem hfirst) (readName_brackets hrest behind)
  rw [readField, hread]
  rfl

/-- The name of a path is taken apart into its first key and steps by keys. -/
theorem readFieldName_name : readFieldName path.name = .ok path.fieldName := by
  obtain ⟨hfirst, hrest⟩ := List.forall_mem_cons.mp path.identifiers
  have hword : ∀ c ∈ path.first.toList, (!beginsAccess c) = true := by
    intro c hc
    have hchar := isIdentifierChar_of_mem hfirst c hc
    have hpoint : c ≠ '.' := ne_of_isIdentifierChar hchar (by decide)
    have hbracket : c ≠ '[' := ne_of_isIdentifierChar hchar (by decide)
    simp [beginsAccess, hpoint, hbracket]
  -- what follows the first key is nothing or a bracket, so the first part of the name ends there
  have hkept : (brackets path.rest).takeWhile (!beginsAccess ·) = [] := by
    cases path.rest with
    | nil => rfl
    | cons key keys => rw [brackets_cons, List.takeWhile_cons_of_neg (by decide)]
  have hleft : (brackets path.rest).dropWhile (!beginsAccess ·) = brackets path.rest := by
    cases path.rest with
    | nil => rfl
    | cons key keys => rw [brackets_cons, List.dropWhile_cons_of_neg (by decide)]
  rw [readFieldName, name, List.takeWhile_append_of_pos hword, List.dropWhile_append_of_pos hword,
    hkept, hleft, List.append_nil, indexOf?_of_isIdentifier hfirst, readAccesses_brackets hrest,
    String.ofList_toList]
  simp [fieldName, toList_ne_nil_of_isIdentifier hfirst]

end KeyPath

/-! ### What placeholders find -/

section

variable [Objects] {v w data : Value} {found : Reached} {keys : List String}

/-- The steps of keys lead where the path of the keys leads, and nowhere else. -/
theorem follow_keys_eq_ok_iff :
    (keys.map Access.key).foldlM Access.follow (.value v) = .ok found ↔
      ∃ w, found = .value w ∧ v.find? keys = some w := by
  induction keys generalizing v with
  | nil => simp [Value.find?, pure, Except.pure, eq_comm]
  | cons key rest ih =>
    have hstep (reached : Reached) : Access.follow (.value v) (.key key) = .ok reached ↔
        ∃ part, v.item (.str key) = .ok part ∧ .value part = reached := by
      rw [Access.follow, mapError_eq_ok_iff, Found.item, map_eq_ok_iff]
    rw [List.map_cons, List.foldlM_cons, Value.find?_cons, bind_eq_ok_iff]
    simp only [hstep, Option.bind_eq_some_iff, ← item_str_eq_ok_iff]
    constructor
    · rintro ⟨_, ⟨part, hpart, rfl⟩, hrest⟩
      obtain ⟨w, hfound, hw⟩ := ih.mp hrest
      exact ⟨w, hfound, part, hpart, hw⟩
    · rintro ⟨w, hfound, part, hpart, hw⟩
      exact ⟨_, ⟨part, hpart, rfl⟩, ih.mpr ⟨w, hfound, hw⟩⟩

/-- The name of a path finds what is found along the path, which is a value. -/
theorem lookUp_eq_ok_iff (path : KeyPath) :
    path.fieldName.lookUp data = .ok found ↔
      ∃ w, found = .value w ∧ data.find? path.keys = some w := by
  rw [lookUp_eq_foldlM]
  show (path.keys.map Access.key).foldlM Access.follow _ = _ ↔ _
  exact follow_keys_eq_ok_iff

/-- The placeholder of a path becomes the text that is found along the path. -/
theorem render_placeholder (path : KeyPath) {text : String}
    (h : data.find? path.keys = some (.str text)) :
    render (.str path.placeholder) data = .ok text :=
  render_of_readField path.toList_placeholder (path.readField_name []) path.readFieldName_name rfl
    rfl rfl ((lookUp_eq_ok_iff path).mpr ⟨_, rfl, h⟩)

end

end QueryTemplates
