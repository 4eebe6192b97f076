import QueryTemplates.Proofs.Outcome
import QueryTemplates.Query.Parse

/-!
# Reading queries step by step

A mapping is read in four steps: the kind it names, its keys, the value at the key of the kind, and
what that kind makes of the value. These laws take the reader apart along those steps.

About `SPEC_FULL.md` §11 (lines 185–201).
-/

namespace QueryTemplates

namespace Query

variable (place : Place)

/-- What a kind makes of the value at its key. -/
def readBody (kind : QueryKind) (entries : Mapping) (body : Value) : Except ReadError Query :=
  let inner := place.key kind.name
  match kind with
  | .term | .phrase => return .term (← expectText inner body)
  | .raw => return .raw (← expectText inner body)
  | .field => do
    let name ← expectText inner body
    let part ← requireKey entries "query" (place.key "query")
    return .field name (← parse (place.key "query") part)
  | .boolean op => return .boolean op (← parseChildren inner body)
  | .group => return .group (← parseChildren inner body)
  | .range => readRange inner body
  | .fuzzy => do
    let similarity ← readSimilarity place entries
    return .fuzzy (← parse inner body) similarity
  | .proximity => readProximity inner body
  | .boost => do
    let query ← parse inner body
    return .boost query (← readNumber place entries "factor")
  | .required => return .required (← parse inner body)

/-- A mapping is read by its kind, its keys and its body, in this order. -/
theorem parse_map (entries : Mapping) :
    parse place (.map entries) = (do
      let kind ← soleKind place entries
      checkKeys place (some kind.name) (kind.name :: kind.companions) entries
      let body ← requireKey entries kind.name (place.key kind.name)
      readBody place kind entries body) := by
  rw [parse]
  cases soleKind place entries with
  | error e => rfl
  | ok kind =>
    rw [ok_bind, ok_bind]
    congr 1
    funext _
    split
    · next h =>
      rw [requireKey, h]
      rfl
    · next body h =>
      rw [requireKey, h, ok_bind]
      cases kind with
      | field =>
        dsimp only [readBody]
        congr 1
        funext name
        split
        · next hpart =>
          rw [requireKey, hpart]
          rfl
        · next part hpart => rw [requireKey, hpart, ok_bind]
      | _ => rfl

/-- A text by itself is a term. -/
theorem parse_str (text : String) : parse place (.str text) = .ok (.term text) := by
  rw [parse]

theorem parse_list (items : List Value) :
    parse place (.list items) = .error (.shape place .mapping) := by
  unfold parse
  rfl

theorem parse_pair (first second : Value) :
    parse place (.pair first second) = .error (.shape place .mapping) := by
  unfold parse
  rfl

/-- A loop is read as what it holds. -/
theorem parse_loop (mark : LoopMark) (content : Value) :
    parse place (.loop mark content) = parse place content := by
  rw [parse]

/-- The mark of a loop has no part in reading. -/
theorem parse_bare (v : Value) : parse place v.bare = parse place v := by
  cases v with
  | loop mark content => rw [Value.bare_loop, parse_loop, parse_bare content]
  | _ => rfl

/-- A text is read at once, a loop without end is refused, and anything else has to be a mapping. -/
theorem parse_cases (v : Value) :
    (∃ text, ∀ place, parse place v = .ok (.term text)) ∨
      (v.bare = .endless ∧ ∀ place, parse place v = .error .endless) ∨
      ∀ place, parse place v = (do parse place (.map (← expectMapping place v))) := by
  simp only [← parse_bare _ v, expectMapping]
  cases hbare : v.bare with
  | scalar s =>
    cases s with
    | str text => exact .inl ⟨text, fun place => parse_str place text⟩
    | _ => refine .inr (.inr fun place => ?_); unfold parse; rfl
  | map entries => exact .inr (.inr fun place => rfl)
  | loop mark content => exact absurd hbare (v.bare_ne_loop mark content)
  | endless => refine .inr (.inl ⟨rfl, fun place => ?_⟩); rw [parse]
  | _ => refine .inr (.inr fun place => ?_); unfold parse; rfl

/-- The items of a list are children. -/
theorem parseChildren_list (items : List Value) :
    parseChildren place (.list items) = parseItems place 0 items := by
  rw [parseChildren]

theorem parseChildren_map (entries : Mapping) :
    parseChildren place (.map entries) = .error (.shape place .list) := by
  unfold parseChildren
  rfl

theorem parseChildren_pair (first second : Value) :
    parseChildren place (.pair first second) = .error (.shape place .list) := by
  unfold parseChildren
  rfl

/-- Children that hold themselves are followed. -/
theorem parseChildren_loop (mark : LoopMark) (content : Value) :
    parseChildren place (.loop mark content) = parseChildren place content := by
  rw [parseChildren]

/-- Marks of loops make no difference to children. -/
theorem parseChildren_bare (v : Value) : parseChildren place v.bare = parseChildren place v := by
  cases v with
  | loop mark content => rw [Value.bare_loop, parseChildren_loop, parseChildren_bare content]
  | _ => rfl

/-- A loop without end is refused, and anything else has to be a list. -/
theorem parseChildren_cases (v : Value) :
    (v.bare = .endless ∧ ∀ place, parseChildren place v = .error .endless) ∨
      ∀ place, parseChildren place v = (do parseItems place 0 (← expectList place v)) := by
  simp only [← parseChildren_bare _ v, expectList]
  cases hbare : v.bare with
  | list items => exact .inr fun place => parseChildren_list place items
  | loop mark content => exact absurd hbare (v.bare_ne_loop mark content)
  | endless => refine .inl ⟨rfl, fun place => ?_⟩; rw [parseChildren]
  | _ => refine .inr fun place => ?_; unfold parseChildren; rfl

theorem parseItems_nil (index : Nat) : parseItems place index [] = .ok [] := by
  rw [parseItems]

/-- Items are read in their order. -/
theorem parseItems_cons (index : Nat) (item : Value) (rest : List Value) :
    parseItems place index (item :: rest) = (do
      let query ← parse (place.index index) item
      return query :: (← parseItems place (index + 1) rest)) := by
  rw [parseItems]

/-! ### The keys of a mapping -/

/-- A companion names no kind itself. -/
theorem ofKey?_companion {kind : QueryKind} {name : String} (h : name ∈ kind.companions) :
    QueryKind.ofKey? (.str name) = none := by
  have hall : kind.companions.all fun name => (QueryKind.ofKey? (.str name)).isNone := by
    cases kind <;> rfl
  simpa using List.all_eq_true.mp hall name h

variable {kind : QueryKind} {body : Value} {rest : Mapping}

/-- The key of a kind tells it among companions. -/
theorem soleKind_cons (hrest : ∀ key ∈ rest.keys, ∃ name ∈ kind.companions, key = .str name) :
    soleKind place ((.str kind.name, body) :: rest) = .ok kind := by
  have hnone : rest.keys.filterMap QueryKind.ofKey? = [] := by
    rw [List.filterMap_eq_nil_iff]
    intro key hkey
    obtain ⟨name, hname, rfl⟩ := hrest key hkey
    exact ofKey?_companion hname
  have hkeys : Mapping.keys ((.str kind.name, body) :: rest) = .str kind.name :: rest.keys := rfl
  rw [soleKind, hkeys, List.filterMap_cons_some (QueryKind.ofKey?_name kind), hnone]

theorem checkKeys_eq_ok_of_known {owner : Option String} {allowed : List String}
    {entries : Mapping} (h : ∀ key ∈ entries.keys, ∃ name ∈ allowed, key = .str name) :
    checkKeys place owner allowed entries = .ok () := by
  have hnone : entries.keys.filter (isUnknown allowed) = [] := by
    rw [List.filter_eq_nil_iff]
    intro key hkey
    obtain ⟨name, hname, rfl⟩ := h key hkey
    simpa [isUnknown] using hname
  rw [checkKeys, hnone]
  rfl

/-- A mapping with the key of a kind and companions of it is read as that kind. -/
theorem parse_cons (kind : QueryKind) (body : Value) (rest : Mapping)
    (hrest : ∀ key ∈ rest.keys, ∃ name ∈ kind.companions, key = .str name) :
    parse place (.map ((.str kind.name, body) :: rest))
      = readBody place kind ((.str kind.name, body) :: rest) body := by
  have hkeys : checkKeys place (some kind.name) (kind.name :: kind.companions)
      ((.str kind.name, body) :: rest) = .ok () := by
    refine checkKeys_eq_ok_of_known place fun key hkey => ?_
    rcases List.mem_cons.mp hkey with rfl | hkey
    · exact ⟨kind.name, by simp, rfl⟩
    · obtain ⟨name, hname, hkey⟩ := hrest key hkey
      exact ⟨name, by simp [hname], hkey⟩
  have hbody : requireKey ((.str kind.name, body) :: rest) kind.name (place.key kind.name)
      = .ok body := by
    simp [requireKey, Mapping.get?]
  rw [parse_map, soleKind_cons place hrest, ok_bind, hkeys, ok_bind, hbody, ok_bind]

/-- A mapping with no other key than that of a kind is read as that kind. -/
theorem parse_singleton (kind : QueryKind) (body : Value) :
    parse place (.map [(.str kind.name, body)])
      = readBody place kind [(.str kind.name, body)] body :=
  parse_cons place kind body [] fun _ h => absurd h List.not_mem_nil

end Query

end QueryTemplates
