import QueryTemplates.Proofs.Query.Location
import QueryTemplates.Proofs.Value.Put

/-!
# A query is read from its nodes

In a value that is read, every node may be replaced by any other value: what is read then is what is
read from that value by itself, put into the same query, and a refusal of that value is the refusal
of the whole. The step is `PartAt.exists_parse_put`; `NodeAt.exists_parse_put` follows by induction
on the way to the node.

About `SPEC_FULL.md` §11 (lines 185–201).
-/

namespace QueryTemplates

theorem isUnknown_eq_false_iff {allowed : List String} {key : Scalar} :
    isUnknown allowed key = false ↔ ∃ name ∈ allowed, key = .str name := by
  cases key with
  | str s => simp [isUnknown]
  | _ => simp [isUnknown]

/-- Keys pass exactly when each is one of the allowed names. -/
theorem checkKeys_eq_ok_iff {place : Place} {owner : Option String} {allowed : List String}
    {m : Mapping} :
    checkKeys place owner allowed m = .ok () ↔
      ∀ key ∈ m.keys, ∃ name ∈ allowed, key = .str name := by
  constructor
  · intro h key hkey
    rw [← isUnknown_eq_false_iff]
    rw [checkKeys] at h
    split at h
    · next hnone =>
      have hall := List.filter_eq_nil_iff.mp (List.isEmpty_iff.mp hnone)
      exact Bool.eq_false_iff.mpr (hall key hkey)
    · obtain ⟨sorted, -, h⟩ := bind_eq_ok_iff.mp h
      split at h
      · cases h
      · cases h
  · exact Query.checkKeys_eq_ok_of_known place

namespace Query

variable {v w part x : Value} {place : Place} {m : Mapping} {kind : QueryKind} {body : Value}
  {steps front : List Step} {q : Query}

/-! ### Mappings that are read -/

/-- A mapping with one kind and keys that it knows is read as that kind. -/
theorem parse_of_known (hm : v.entries? = some m) (hkind : kindsOf m = [kind])
    (hkeys : ∀ key ∈ m.keys, ∃ name ∈ kind.name :: kind.companions, key = .str name)
    (hbody : Mapping.get? m (.str kind.name) = some body) :
    parse place v = readBody place kind m body := by
  rw [← parse_bare, Value.entries?_eq_some_iff.mp hm, parse_map, soleKind_eq_ok_iff.mpr hkind,
    ok_bind, checkKeys_eq_ok_iff.mpr hkeys, ok_bind, requireKey_eq_ok_iff.mpr hbody, ok_bind]

/-- What is read from a mapping has one kind, keys that it knows, and a body that is read. -/
theorem parse_eq_ok_iff_of_entries? (hm : v.entries? = some m) :
    parse place v = .ok q ↔ ∃ kind body, kindsOf m = [kind] ∧
      (∀ key ∈ m.keys, ∃ name ∈ kind.name :: kind.companions, key = .str name) ∧
      Mapping.get? m (.str kind.name) = some body ∧ readBody place kind m body = .ok q := by
  constructor
  · intro h
    rw [← parse_bare, Value.entries?_eq_some_iff.mp hm, parse_map, bind_eq_ok_iff] at h
    obtain ⟨kind, hkind, h⟩ := h
    obtain ⟨_, hkeys, h⟩ := bind_eq_ok_iff.mp h
    obtain ⟨body, hbody, h⟩ := bind_eq_ok_iff.mp h
    exact ⟨kind, body, soleKind_eq_ok_iff.mp hkind, checkKeys_eq_ok_iff.mp hkeys,
      requireKey_eq_ok_iff.mp hbody, h⟩
  · rintro ⟨kind, body, hkind, hkeys, hbody, h⟩
    rw [parse_of_known hm hkind hkeys hbody, h]

/-- A value that is set at a key that is present leaves the kind and the keys as they are. -/
theorem parse_put_key {name : String} (hm : v.entries? = some m) (hkind : kindsOf m = [kind])
    (hkeys : ∀ key ∈ m.keys, ∃ name ∈ kind.name :: kind.companions, key = .str name)
    (hpart : Mapping.get? m (.str name) = some part)
    (hbody : Mapping.get? (Mapping.set m (.str name) x) (.str kind.name) = some body) :
    parse place (v.put [.key name] x)
      = readBody place kind (Mapping.set m (.str name) x) body := by
  have hsame : Mapping.keys (Mapping.set m (.str name) x) = m.keys := by
    rw [Mapping.keys_set, hpart]
    rfl
  refine parse_of_known (Value.entries?_put_key hm hpart x) ?_ ?_ hbody
  · rw [kindsOf, hsame]
    exact hkind
  · rw [hsame]
    exact hkeys

/-- What is set is found at its key. -/
theorem get?_set_self (m : Mapping) (name : String) (x : Value) :
    Mapping.get? (Mapping.set m (.str name) x) (.str name) = some x := by
  rw [Mapping.get?_set, Scalar.same_str, beq_self_eq_true, if_pos rfl]

/-- What is set at one key leaves the others. -/
theorem get?_set_of_ne {name other : String} (h : name ≠ other) (m : Mapping) (x : Value) :
    Mapping.get? (Mapping.set m (.str name) x) (.str other) = Mapping.get? m (.str other) := by
  rw [Mapping.get?_set, Scalar.same_str, beq_false_of_ne h, if_neg Bool.false_ne_true]

/-! ### One part -/

theorem parseItems_set {index number : Nat} {items : List Value} {qs : List Query}
    (h : parseItems place index items = .ok qs) (hnumber : number < items.length) (x : Value) :
    parseItems place index (items.set number x)
      = (qs.set number ·) <$> parse (place.index (index + number)) x := by
  induction items generalizing index number qs with
  | nil => cases hnumber
  | cons item rest ih =>
    rw [parseItems_cons, bind_eq_ok_iff] at h
    obtain ⟨first, hfirst, h⟩ := h
    obtain ⟨others, hothers, h⟩ := bind_eq_ok_iff.mp h
    obtain rfl := Except.ok.inj h
    cases number with
    | zero =>
      rw [List.set_cons_zero, parseItems_cons, hothers]
      cases parse (place.index index) x <;> rfl
    | succ number =>
      rw [List.set_cons_succ, parseItems_cons, hfirst, ok_bind,
        ih hothers (Nat.lt_of_succ_lt_succ hnumber), Nat.add_right_comm, Nat.add_assoc]
      cases parse (place.index (index + (number + 1))) x <;> rfl

theorem parseChildren_put {items : List Value} {number : Nat} {qs : List Query}
    (hitems : body.items? = some items) (hpart : items[number]? = some part)
    (h : parseChildren place body = .ok qs) (x : Value) :
    parseChildren place (body.put [.index number] x)
      = (qs.set number ·) <$> parse (place.index number) x := by
  obtain ⟨hnumber, -⟩ := List.getElem?_eq_some_iff.mp hpart
  rw [← parseChildren_bare, Value.items?_eq_some_iff.mp hitems, parseChildren_list] at h
  rw [← parseChildren_bare, Value.items?_eq_some_iff.mp (Value.items?_put_index hitems hpart x),
    parseChildren_list, parseItems_set h hnumber, Nat.zero_add]

/-- What is read from a value is made of what is read from any of its parts. -/
theorem PartAt.exists_parse_put (h : PartAt v front part) (hv : parse place v = .ok q) :
    ∃ f : Query → Query, ∀ x,
      parse place (v.put front x) = f <$> parse (place.extend front) x := by
  cases h with
  | query hm hkind hpart =>
    obtain ⟨kind, body, hkind', hkeys, hbody, hread⟩ := (parse_eq_ok_iff_of_entries? hm).mp hv
    obtain rfl := List.singleton_inj.mp (hkind.symm.trans hkind')
    obtain ⟨name, hname, -⟩ := bind_eq_ok_iff.mp hread
    have hother : "query" ≠ QueryKind.field.name := by decide
    refine ⟨.field name, fun x => ?_⟩
    rw [parse_put_key hm hkind hkeys hpart ((get?_set_of_ne hother _ _).trans hbody), readBody,
      hname, ok_bind, requireKey_eq_ok_iff.mpr (get?_set_self _ _ _), ok_bind]
    rfl
  | @body m kind _ hm hkind hwraps hpart =>
    obtain ⟨kind', body, hkind', hkeys, hbody, hread⟩ := (parse_eq_ok_iff_of_entries? hm).mp hv
    obtain rfl := List.singleton_inj.mp (hkind.symm.trans hkind')
    have hput (x : Value) : parse place (v.put [.key kind.name] x)
        = readBody place kind (Mapping.set m (.str kind.name) x) x :=
      parse_put_key hm hkind hkeys hpart (get?_set_self _ _ _)
    rcases hwraps with rfl | rfl | rfl
    · obtain ⟨similarity, hsimilarity, -⟩ := bind_eq_ok_iff.mp hread
      have hother : QueryKind.fuzzy.name ≠ "similarity" := by decide
      refine ⟨(.fuzzy · similarity), fun x => ?_⟩
      have hbeside : readSimilarity place (Mapping.set m (.str QueryKind.fuzzy.name) x)
          = .ok similarity := by
        rw [← hsimilarity, readSimilarity, readSimilarity, get?_set_of_ne hother]
      rw [hput, readBody, hbeside, ok_bind]
      rfl
    · obtain ⟨query, -, hread⟩ := bind_eq_ok_iff.mp hread
      obtain ⟨factor, hfactor, -⟩ := bind_eq_ok_iff.mp hread
      have hother : QueryKind.boost.name ≠ "factor" := by decide
      refine ⟨(.boost · factor), fun x => ?_⟩
      have hbeside : readNumber place (Mapping.set m (.str QueryKind.boost.name) x) "factor"
          = .ok factor := by
        rw [← hfactor, readNumber, readNumber, requireKey, requireKey, get?_set_of_ne hother]
      rw [hput, readBody, hbeside]
      rfl
    · exact ⟨.required, hput⟩
  | @child m kind body _ items number hm hkind hjoins hbody hitems hpart =>
    obtain ⟨kind', body', hkind', hkeys, hbody', hread⟩ := (parse_eq_ok_iff_of_entries? hm).mp hv
    obtain rfl := List.singleton_inj.mp (hkind.symm.trans hkind')
    obtain rfl := Option.some.inj (hbody.symm.trans hbody')
    have hput (x : Value) : parse place (v.put [.key kind.name, .index number] x)
        = readBody place kind (Mapping.set m (.str kind.name) (body.put [.index number] x))
          (body.put [.index number] x) := by
      have hfront : [Step.key kind.name, .index number] = [.key kind.name] ++ [.index number] := rfl
      rw [hfront, Value.put_append (Value.follow?_key hm hbody)]
      exact parse_put_key hm hkind hkeys hbody (get?_set_self _ _ _)
    rcases hjoins with rfl | ⟨op, rfl⟩
    · obtain ⟨children, hchildren, -⟩ := bind_eq_ok_iff.mp hread
      refine ⟨fun query => .group (children.set number query), fun x => ?_⟩
      rw [hput, readBody, parseChildren_put hitems hpart hchildren, bind_pure_comp,
        Functor.map_map]
      rfl
    · obtain ⟨children, hchildren, -⟩ := bind_eq_ok_iff.mp hread
      refine ⟨fun query => .boolean op (children.set number query), fun x => ?_⟩
      rw [hput, readBody, parseChildren_put hitems hpart hchildren, bind_pure_comp,
        Functor.map_map]
      rfl

/-! ### Any node -/

/-- What is read from a value is made of what is read from any node in it. -/
theorem NodeAt.exists_parse_put {node : Value} (h : NodeAt v steps node)
    (hv : parse place v = .ok q) :
    ∃ f : Query → Query, ∀ x,
      parse place (v.put steps x) = f <$> parse (place.extend steps) x := by
  induction h generalizing place q with
  | here v => exact ⟨id, fun x => (id_map _).symm⟩
  | @part v front part steps node hpart _ ih =>
    obtain ⟨f, hf⟩ := hpart.exists_parse_put hv
    -- the part is read, since the whole is
    have hwhole := hf part
    rw [Value.put_of_follow? hpart.follow?, hv] at hwhole
    cases hread : parse (place.extend front) part with
    | error e =>
      rw [hread] at hwhole
      cases hwhole
    | ok query =>
      obtain ⟨g, hg⟩ := ih hread
      refine ⟨f ∘ g, fun x => ?_⟩
      rw [Value.put_append hpart.follow?, hf, hg, Place.extend_extend]
      cases parse (place.extend (front ++ steps)) x <;> rfl

/-- Every node of a value that is read is read by itself. -/
theorem NodeAt.parse_eq_ok {node : Value} (h : NodeAt v steps node) (hv : parse place v = .ok q) :
    ∃ part, parse (place.extend steps) node = .ok part := by
  obtain ⟨f, hf⟩ := h.exists_parse_put hv
  have hwhole := hf node
  rw [Value.put_of_follow? h.follow?, hv] at hwhole
  cases hread : parse (place.extend steps) node with
  | error e =>
    rw [hread] at hwhole
    cases hwhole
  | ok part => exact ⟨part, rfl⟩

end Query

end QueryTemplates
