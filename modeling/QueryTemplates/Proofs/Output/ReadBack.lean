import QueryTemplates.Output.Basic
import QueryTemplates.Proofs.Output.Json

/-!
# Output in JSON is read back

The JSON output is a document, and its value is the list of the queries in their order, each an
object with the name and the query and nothing else. So the output loses nothing: other queries have
another output.

About the JSON of `SPEC_FULL.md` §13 (lines 213–215).
-/

namespace QueryTemplates

open Json

theorem toList_jsonText (s : String) : (jsonText s).toList = jsonChars s.toList :=
  String.toList_ofList

namespace CompiledQuery

/-- The name in JSON; without a name it is null. -/
def nameJson (compiled : CompiledQuery) : Json :=
  match compiled.name with
  | none => .null
  | some name => .text name

/-- The query in JSON: an object of its name and its text. -/
def toJson (compiled : CompiledQuery) : Json :=
  .object [("name", compiled.nameJson), ("query", .text compiled.query)]

theorem toJson_injective : Function.Injective toJson := by
  rintro ⟨name, query⟩ ⟨name', query'⟩ h
  have hmembers := Json.object.inj h
  simp only [List.cons.injEq, Prod.mk.injEq, true_and, and_true] at hmembers
  obtain ⟨hname, hquery⟩ := hmembers
  obtain rfl := Json.text.inj hquery
  cases name with
  | none =>
    cases name' with
    | none => rfl
    | some name' => cases hname
  | some name =>
    cases name' with
    | none => cases hname
    | some name' =>
      obtain rfl := Json.text.inj hname
      rfl

/-- What is written for the name. -/
def nameChars (compiled : CompiledQuery) : List Char :=
  match compiled.name with
  | none => "null".toList
  | some name => jsonChars name.toList

/-- The name of a query says a text, or null if there is none. -/
theorem says_nameChars (compiled : CompiledQuery) :
    Says 1 compiled.nameChars compiled.nameJson := by
  obtain ⟨_ | name, query⟩ := compiled
  · have hnull : "null".toList = ['n', 'u', 'l', 'l'] := by decide
    show Says 1 "null".toList .null
    rw [hnull]
    exact says_null
  · exact says_text name

/-- A query is laid out as an object of its name and its text. -/
theorem toList_jsonObject (compiled : CompiledQuery) :
    compiled.jsonObject.toList = [' ', ' '] ++
      laidOut '\x7b' '\x7d' ['\n', ' ', ' ', ' ', ' '] ['\n', ' ', ' ']
        [namedChars "name" compiled.nameChars,
          namedChars "query" (jsonChars compiled.query.toList)] := by
  have hname : "  \x7b\n    \"name\": ".toList
      = [' ', ' ', '\x7b', '\n', ' ', ' ', ' ', ' '] ++ jsonChars "name".toList ++ [':', ' '] := by
    decide
  have hquery : ",\n    \"query\": ".toList
      = [',', '\n', ' ', ' ', ' ', ' '] ++ jsonChars "query".toList ++ [':', ' '] := by decide
  have hclosing : "\n  \x7d".toList = ['\n', ' ', ' ', '\x7d'] := by decide
  have hwritten : compiled.jsonObject.toList = "  \x7b\n    \"name\": ".toList
      ++ compiled.nameChars ++ ",\n    \"query\": ".toList ++ jsonChars compiled.query.toList
      ++ "\n  \x7d".toList := by
    obtain ⟨_ | name, query⟩ := compiled
    · unfold jsonObject
      simp only [String.toList_append, toList_jsonText, nameChars]
    · unfold jsonObject
      simp only [String.toList_append, toList_jsonText, nameChars]
  rw [hwritten, hname, hquery, hclosing]
  simp only [laidOut, namedChars, List.intercalate_cons_cons, List.intercalate_singleton,
    List.append_assoc, List.cons_append, List.nil_append]

theorem says_jsonObject (compiled : CompiledQuery) :
    Says 4 compiled.jsonObject.toList compiled.toJson := by
  rw [toList_jsonObject]
  refine Says.indent ?_ (by decide)
  refine says_object (by decide) (by decide) (.cons ?_ (.cons ?_ .nil)) (by simp)
  · exact ⟨_, rfl, says_nameChars compiled⟩
  · exact ⟨_, rfl, says_text compiled.query⟩

end CompiledQuery

/-- Joined parts are as long as their least length times their number. -/
theorem length_mul_le_length_intercalate {n : Nat} {separator : List Char}
    {parts : List (List Char)} (h : ∀ part ∈ parts, n ≤ part.length) :
    parts.length * n ≤ (separator.intercalate parts).length := by
  induction parts with
  | nil => simp
  | cons part rest ih =>
    obtain ⟨hpart, hrest⟩ := List.forall_mem_cons.mp h
    have hlength := ih hrest
    cases rest with
    | nil => simpa using hpart
    | cons next others =>
      rw [List.intercalate_cons_cons]
      simp only [List.length_append, List.length_cons, Nat.succ_mul] at hlength ⊢
      omega

/-- The output of some queries is laid out as a list. -/
theorem toList_writeJson {queries : List CompiledQuery} (hne : queries ≠ []) :
    (writeJson queries).toList
      = laidOut '[' ']' ['\n'] ['\n'] (queries.map fun compiled => compiled.jsonObject.toList) := by
  cases queries with
  | nil => exact absurd rfl hne
  | cons first rest =>
    unfold writeJson laidOut
    rw [String.toList_append, String.toList_append, String.toList_intercalate, List.map_map]
    rfl

/-- There are more characters than readers at work, since each object begins with two blanks. -/
theorem le_length_writeJson {queries : List CompiledQuery} (hne : queries ≠ []) :
    queries.length + 5 ≤ (writeJson queries).toList.length := by
  have hobject : ∀ part ∈ queries.map fun compiled => compiled.jsonObject.toList,
      2 ≤ part.length := by
    intro part hpart
    obtain ⟨compiled, -, rfl⟩ := List.mem_map.mp hpart
    rw [CompiledQuery.toList_jsonObject]
    simp
  have hjoined : (queries.map fun compiled => compiled.jsonObject.toList).length * 2
      ≤ ([',', '\n'].intercalate (queries.map fun compiled => compiled.jsonObject.toList)).length :=
    length_mul_le_length_intercalate hobject
  have hpos := List.length_pos_iff.mpr hne
  rw [toList_writeJson hne]
  simp only [laidOut, List.length_append, List.length_cons, List.length_nil, List.length_map]
    at hjoined ⊢
  omega

/-- The output is read as the list of what the queries are. -/
theorem decode?_writeJson (queries : List CompiledQuery) :
    Json.decode? (writeJson queries) = some (.list (queries.map CompiledQuery.toJson)) := by
  by_cases hne : queries = []
  · subst hne
    rfl
  · have hobjects : List.Forall₂ (Says 4)
        (queries.map fun compiled => compiled.jsonObject.toList)
        (queries.map CompiledQuery.toJson) := by
      rw [List.forall₂_map_left_iff, List.forall₂_map_right_iff, List.forall₂_same]
      exact fun compiled _ => compiled.says_jsonObject
    have hlines : ['\n'] ⊆ spaces := by decide
    have hlist := says_list hlines hlines hobjects (by simpa using hne)
    rw [← toList_writeJson hne, List.length_map] at hlist
    have hlength := le_length_writeJson hne
    exact decode?_of_says hlist (by omega)

/-- Read as JSON, the output of queries is a document, and its value is a list with one object for
each query in their order. The object has the name, or null without one, and the query, and nothing
else. No other queries have that output. -/
theorem json_output_read_back (queries : List CompiledQuery) :
    Json.decode? (OutputFormat.json.write queries)
      = some (.list (queries.map CompiledQuery.toJson)) ∧
    ∀ others, OutputFormat.json.write others = OutputFormat.json.write queries ↔
      others = queries := by
  refine ⟨decode?_writeJson queries, ?_⟩
  intro others
  constructor
  · intro h
    have hread : Json.list (others.map CompiledQuery.toJson)
        = .list (queries.map CompiledQuery.toJson) := by
      apply Option.some.inj
      rw [← decode?_writeJson, ← decode?_writeJson]
      exact congrArg Json.decode? h
    exact CompiledQuery.toJson_injective.list_map (Json.list.inj hread)
  · rintro rfl
    rfl

end QueryTemplates
