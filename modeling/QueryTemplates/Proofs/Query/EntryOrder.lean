import QueryTemplates.Proofs.Query.Reading
import QueryTemplates.Proofs.Value.Reordered

/-!
# The order of entries in written queries

A query is read from a value by looking at the kinds of scalars, at the items of lists in their
order, and at mappings by their keys. What stands where in a mapping is never looked at, and keys
without a meaning are told in increasing order. So values that differ in the order of entries only
are read alike. Main statement: `parse_eq_of_reordered`.

About `SPEC_FULL.md` §11 (lines 185–201).
-/

namespace QueryTemplates

/-- Both values are read alike, whatever is to be read. -/
structure Value.ReadAlike (v w : Value) : Prop where
  scalar : ∀ s, v = .scalar s ↔ w = .scalar s
  query : ∀ place, Query.parse place v = Query.parse place w
  children : ∀ place, Query.parseChildren place v = Query.parseChildren place w
  range : ∀ place, Query.readRange place v = Query.readRange place w
  proximity : ∀ place, Query.readProximity place v = Query.readProximity place w

/-- Both mappings have the same texts as keys, and what is found at a key is read alike. -/
structure Mapping.ReadAlike (m n : Mapping) : Prop where
  texts : AllTexts m.keys
  keys : m.keys.Perm n.keys
  values : ∀ key, Option.Rel Value.ReadAlike (m.get? key) (n.get? key)

/-- A value is read as it is. -/
theorem Value.ReadAlike.refl (v : Value) : v.ReadAlike v where
  scalar _ := Iff.rfl
  query _ := rfl
  children _ := rfl
  range _ := rfl
  proximity _ := rfl

/-- What is read alike twice is read alike. -/
theorem Value.ReadAlike.trans {u v w : Value} (h : u.ReadAlike v) (h' : v.ReadAlike w) :
    u.ReadAlike w where
  scalar s := (h.scalar s).trans (h'.scalar s)
  query place := (h.query place).trans (h'.query place)
  children place := (h.children place).trans (h'.children place)
  range place := (h.range place).trans (h'.range place)
  proximity place := (h.proximity place).trans (h'.proximity place)

/-! ### Scalars -/

section

variable {v w : Value} (h : v.ReadAlike w) (place : Place)

include h

/-- What is the same for all values with parts is the same for values that are read alike. -/
theorem Value.ReadAlike.eq_of_parts {α : Type} {read : Value → α} {a : α}
    (hparts : ∀ v, (∀ s, v ≠ .scalar s) → read v = a) : read v = read w := by
  by_cases hv : ∃ s, v = .scalar s
  · obtain ⟨s, rfl⟩ := hv
    rw [(h.scalar s).mp rfl]
  · rw [not_exists] at hv
    have hw : ∀ s, w ≠ .scalar s := fun s hs => hv s ((h.scalar s).mpr hs)
    rw [hparts v hv, hparts w hw]

/-- What is read alike is the same text, or none. -/
theorem expectText_eq_of_alike : expectText place v = expectText place w := by
  apply h.eq_of_parts
  intro v hv
  cases v with
  | scalar s => exact absurd rfl (hv s)
  | _ => rfl

theorem expectBool_eq_of_alike : expectBool place v = expectBool place w := by
  apply h.eq_of_parts
  intro v hv
  cases v with
  | scalar s => exact absurd rfl (hv s)
  | _ => rfl

/-- What is read alike is the same number, or none. -/
theorem expectNumber_eq_of_alike : expectNumber place v = expectNumber place w := by
  apply h.eq_of_parts
  intro v hv
  cases v with
  | scalar s => exact absurd rfl (hv s)
  | _ => rfl

end

/-! ### Mappings -/

namespace Query

section

variable {m n : Mapping} (h : m.ReadAlike n) (place : Place) (name : String)

include h

/-- The kind of a mapping does not depend on the order of its keys. -/
theorem soleKind_eq_of_alike : soleKind place m = soleKind place n := by
  have hperm := h.keys.filterMap QueryKind.ofKey?
  rw [soleKind, soleKind]
  generalize m.keys.filterMap QueryKind.ofKey? = kinds,
    n.keys.filterMap QueryKind.ofKey? = kinds' at hperm ⊢
  by_cases hone : kinds.length = 1
  · obtain ⟨kind, rfl⟩ := List.length_eq_one_iff.mp hone
    rw [List.singleton_perm.mp hperm]
  · -- no kind or several are refused, whichever they are
    have hone' : kinds'.length ≠ 1 := by rwa [← hperm.length_eq]
    split
    · exact absurd rfl hone
    · split
      · exact absurd rfl hone'
      · rfl

/-- Unknown keys are listed in the order of texts, not of entries. -/
theorem checkKeys_eq_of_alike (owner : Option String) (allowed : List String) :
    checkKeys place owner allowed m = checkKeys place owner allowed n := by
  have hperm := h.keys.filter (isUnknown allowed)
  have htexts := h.texts.filter (isUnknown allowed)
  have hempty : (m.keys.filter (isUnknown allowed)).isEmpty
      = (n.keys.filter (isUnknown allowed)).isEmpty := by
    rw [Bool.eq_iff_iff, List.isEmpty_iff, List.isEmpty_iff]
    exact ⟨fun hnil => (hnil ▸ hperm).nil_eq.symm, fun hnil => (hnil ▸ hperm).eq_nil⟩
  rw [checkKeys, checkKeys, hempty, sortScalars_eq_of_perm htexts hperm]

/-- What comes behind a required value is the same when it reads that value alike. -/
theorem requireKey_bind_eq_of_alike {α : Type} {next next' : Value → Except ReadError α}
    (hnext : ∀ v w : Value, v.ReadAlike w → next v = next' w) :
    requireKey m name place >>= next = requireKey n name place >>= next' := by
  have hvalues := h.values (.str name)
  rw [requireKey, requireKey]
  generalize m.get? (.str name) = found, n.get? (.str name) = found' at hvalues ⊢
  cases hvalues with
  | none => rfl
  | some halike => exact hnext _ _ halike

theorem readText_eq_of_alike : readText place m name = readText place n name :=
  requireKey_bind_eq_of_alike h _ _ fun _ _ halike => expectText_eq_of_alike halike _

theorem readNumber_eq_of_alike : readNumber place m name = readNumber place n name :=
  requireKey_bind_eq_of_alike h _ _ fun _ _ halike => expectNumber_eq_of_alike halike _

theorem readFlag_eq_of_alike : readFlag place m name = readFlag place n name := by
  have hvalues := h.values (.str name)
  rw [readFlag, readFlag]
  generalize m.get? (.str name) = found, n.get? (.str name) = found' at hvalues ⊢
  cases hvalues with
  | none => rfl
  | some halike => exact expectBool_eq_of_alike halike _

theorem readSimilarity_eq_of_alike : readSimilarity place m = readSimilarity place n := by
  have hvalues := h.values (.str "similarity")
  rw [readSimilarity, readSimilarity]
  generalize m.get? (.str "similarity") = found, n.get? (.str "similarity") = found' at hvalues ⊢
  cases hvalues with
  | none => rfl
  | @some v w halike =>
    by_cases hnull : v = .null
    · rw [hnull, (halike.scalar .null).mp hnull]
    · have hnull' : w ≠ .null := fun hw => hnull ((halike.scalar .null).mpr hw)
      simp only [expectNumber_eq_of_alike halike]

/-- A body is read alike beside companions that are. -/
theorem readBody_eq_of_alike (kind : QueryKind) {v w : Value} (halike : v.ReadAlike w) :
    readBody place kind m v = readBody place kind n w := by
  cases kind with
  | term => rw [readBody, readBody, expectText_eq_of_alike halike]
  | phrase => rw [readBody, readBody, expectText_eq_of_alike halike]
  | raw => rw [readBody, readBody, expectText_eq_of_alike halike]
  | field =>
    rw [readBody, readBody, expectText_eq_of_alike halike]
    congr 1
    funext text
    apply requireKey_bind_eq_of_alike h
    intro part part' hpart
    rw [hpart.query]
  | boolean op => rw [readBody, readBody, halike.children]
  | group => rw [readBody, readBody, halike.children]
  | range => exact halike.range _
  | fuzzy => rw [readBody, readBody, readSimilarity_eq_of_alike h, halike.query]
  | proximity => exact halike.proximity _
  | boost => rw [readBody, readBody, halike.query, readNumber_eq_of_alike h]
  | required => rw [readBody, readBody, halike.query]

/-- Mappings with the same keys and values that are read alike are read alike. -/
theorem readAlike_map : Value.ReadAlike (.map m) (.map n) where
  scalar s := iff_of_false nofun nofun
  query place := by
    rw [parse_map, parse_map, soleKind_eq_of_alike h]
    congr 1
    funext kind
    rw [checkKeys_eq_of_alike h]
    congr 1
    funext _
    apply requireKey_bind_eq_of_alike h
    intro body body' hbody
    exact readBody_eq_of_alike h place kind hbody
  children place := by rw [parseChildren_map, parseChildren_map]
  range place := by
    show (checkKeys place none _ m >>= _) = (checkKeys place none _ n >>= _)
    rw [checkKeys_eq_of_alike h, readText_eq_of_alike h, readText_eq_of_alike h,
      readFlag_eq_of_alike h, readFlag_eq_of_alike h]
  proximity place := by
    show (readText place m _ >>= _) = (readText place n _ >>= _)
    rw [readText_eq_of_alike h, readText_eq_of_alike h, readNumber_eq_of_alike h]

end

/-! ### Values that differ in one part -/

section

variable {v w : Value} (h : v.ReadAlike w)

include h

/-- One item that is read alike changes no outcome of a list. -/
theorem parseItems_eq_of_alike (place : Place) (index : Nat) (before behind : List Value) :
    parseItems place index (before ++ v :: behind)
      = parseItems place index (before ++ w :: behind) := by
  induction before generalizing index with
  | nil => rw [List.nil_append, List.nil_append, parseItems_cons, parseItems_cons, h.query]
  | cons item before ih =>
    rw [List.cons_append, List.cons_append, parseItems_cons, parseItems_cons, ih]

/-- So a list with that item is read alike. -/
theorem readAlike_item (before behind : List Value) :
    Value.ReadAlike (.list (before ++ v :: behind)) (.list (before ++ w :: behind)) where
  scalar s := iff_of_false nofun nofun
  query place := by rw [parse_list, parse_list]
  children place := by
    rw [parseChildren_list, parseChildren_list, parseItems_eq_of_alike h]
  range place := rfl
  proximity place := rfl

/-- A mapping is read alike if one of its values is. -/
theorem readAlike_value {before : Mapping} {key : Scalar} {behind : Mapping}
    (htexts : AllTexts (Mapping.keys (before ++ (key, v) :: behind))) :
    Mapping.ReadAlike (before ++ (key, v) :: behind) (before ++ (key, w) :: behind) where
  texts := htexts
  keys := by rw [Value.keys_append_cons before key v w behind]
  values k := by
    clear htexts
    induction before with
    | nil =>
      rw [List.nil_append, List.nil_append, Mapping.get?_cons, Mapping.get?_cons]
      by_cases hk : key.same k = true
      · rw [if_pos hk, if_pos hk]
        exact .some h
      · rw [if_neg hk, if_neg hk]
        cases Mapping.get? behind k with
        | none => exact .none
        | some u => exact .some (.refl u)
    | cons entry before ih =>
      obtain ⟨j, u⟩ := entry
      rw [List.cons_append, List.cons_append, Mapping.get?_cons, Mapping.get?_cons]
      by_cases hj : j.same k = true
      · rw [if_pos hj, if_pos hj]
        exact .some (.refl u)
      · rw [if_neg hj, if_neg hj]
        exact ih

theorem readAlike_loop (mark : LoopMark) : Value.ReadAlike (.loop mark v) (.loop mark w) where
  scalar s := iff_of_false nofun nofun
  query place := by rw [parse_loop, parse_loop, h.query]
  children place := by rw [parseChildren_loop, parseChildren_loop, h.children]
  range place := h.range place
  proximity place := h.proximity place

end

theorem readAlike_pair (first second first' second' : Value) :
    Value.ReadAlike (.pair first second) (.pair first' second') where
  scalar s := iff_of_false nofun nofun
  query place := by rw [parse_pair, parse_pair]
  children place := by rw [parseChildren_pair, parseChildren_pair]
  range place := rfl
  proximity place := rfl

/-- A mapping with other order of entries is read alike, since no key comes twice. -/
theorem readAlike_entries {m n : Mapping} (h : m.Perm n) (htexts : AllTexts m.keys)
    (hdistinct : m.Distinct) : m.ReadAlike n where
  texts := htexts
  keys := Mapping.keys_perm h
  values key := by
    rw [hdistinct.get?_eq_of_perm h]
    cases n.get? key with
    | none => exact .none
    | some v => exact .some (.refl v)

/-- Values that differ in the order of entries only are read alike. -/
theorem readAlike_of_reordered {v w : Value} (h : v.Reordered w) (hv : v.TextKeyed) :
    v.ReadAlike w := by
  induction h with
  | refl v => exact .refl v
  | entries h =>
    cases hv with
    | map htexts hdistinct hvalues => exact readAlike_map (readAlike_entries h htexts hdistinct)
  | value before key behind h ih =>
    cases hv with
    | map htexts hdistinct hvalues =>
      have hvalue := hvalues (key, _) (List.mem_append_right before List.mem_cons_self)
      exact readAlike_map (readAlike_value (ih hvalue) htexts)
  | item before behind h ih =>
    cases hv with
    | list hitems =>
      have hitem := hitems _ (List.mem_append_right before List.mem_cons_self)
      exact readAlike_item (ih hitem) before behind
  | first second h ih => exact readAlike_pair _ _ _ _
  | second first h ih => exact readAlike_pair _ _ _ _
  | loop mark h ih =>
    cases hv with
    | loop _ hcontent => exact readAlike_loop (ih hcontent) mark
  | trans h h' ih ih' => exact (ih hv).trans (ih' (hv.of_reordered h))

/-- The order of entries in a value, at any depth, has no part in what is read from it: the query is
the same, or the refusal is the same, with the same place and the same keys in it. -/
theorem parse_eq_of_reordered {v w : Value} (h : v.Reordered w) (hv : v.TextKeyed) (place : Place) :
    parse place v = parse place w :=
  (readAlike_of_reordered h hv).query place

/-- Of several faults the same one is told, whatever the order of entries is. -/
theorem parse_eq_of_reversed_faults :
    let faulty : Mapping := [(.str "b", .int 1), (.str "term", .str "x"), (.str "a", .int 2)]
    let outer (m : Mapping) : Value := .map [(.str "and", .list [.str "y", .map m])]
    (outer faulty).Reordered (outer faulty.reverse) ∧ (outer faulty).TextKeyed ∧
      parse ⟨"q", []⟩ (outer faulty) = parse ⟨"q", []⟩ (outer faulty.reverse) ∧
      parse ⟨"q", []⟩ (outer faulty) = .error
        (.unknownKeys ⟨"q", [.key "and", .index 1]⟩ (some "term") [.str "a", .str "b"]) := by
  intro faulty outer
  have hreordered : (outer faulty).Reordered (outer faulty.reverse) :=
    .value [] (.str "and") [] (.item [.str "y"] [] (.entries faulty.reverse_perm.symm))
  have hfaulty : (Value.map faulty).TextKeyed := by
    apply Value.TextKeyed.map
    · simp [faulty, AllTexts, Mapping.keys]
    · decide
    · simp [faulty, Value.TextKeyed.scalar]
  have hitems : (Value.list [.str "y", .map faulty]).TextKeyed := by
    apply Value.TextKeyed.list
    simp [hfaulty, Value.TextKeyed.scalar]
  have hkeyed : (outer faulty).TextKeyed := by
    apply Value.TextKeyed.map
    · simp [AllTexts, Mapping.keys]
    · exact .singleton _ _
    · simp [hitems]
  refine ⟨hreordered, hkeyed, parse_eq_of_reordered hreordered hkeyed _, ?_⟩
  show parse _ (.map [(.str (QueryKind.boolean .and).name, _)]) = _
  rw [parse_singleton, readBody, parseChildren_list, parseItems_cons, parse_str, ok_bind,
    parseItems_cons, parse_map]
  rfl

end Query

end QueryTemplates
