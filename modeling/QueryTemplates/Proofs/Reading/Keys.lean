import QueryTemplates.Proofs.Query.Composed
import QueryTemplates.Proofs.Query.Written
import QueryTemplates.Template

/-!
# Keys without a meaning

In a template that is read, the mapping of the template, every node of its query and the description
of a range hold no keys but those of the grammar: one key more, and the template is refused under
the place of that mapping. The description of two words in proximity may hold any other keys; they
are ignored. Main statement: `unknown_key_refused_or_ignored`.

About `SPEC_FULL.md` §11 (lines 185–201).
-/

namespace QueryTemplates

/-- What a mapping in a template is read as. -/
inductive Role where
  | template
  | node (kind : QueryKind)
  /-- The body of a range. -/
  | range
  /-- The body of two words in proximity. -/
  | proximity
deriving DecidableEq

namespace Role

/-- The keys that the grammar gives to a mapping. -/
def keys : Role → List String
  | .template => ["NAME", "QUERY", "DATA"]
  | .node kind => kind.name :: kind.companions
  | .range => ["start", "end", "include_left", "include_right"]
  | .proximity => ["first", "second", "distance"]

/-- The refusal of a mapping for one key that the grammar does not give to it. A node with the key
of another kind is one of two kinds. -/
def refusal (place : Place) (name : String) : Role → ReadError
  | .node kind =>
    if (QueryKind.ofKey? (.str name)).isSome then
      .noSoleKey place (QueryKind.all.map QueryKind.name)
    else .unknownKeys place (some kind.name) [.str name]
  | _ => .unknownKeys place none [.str name]

end Role

/-- The steps lead from a template to a mapping, and that is how the mapping is read. -/
inductive RoleAt (v : Value) : List Step → Role → Mapping → Prop
  | template {m : Mapping} (hm : v.entries? = some m) : RoleAt v [] .template m
  | node {m entries : Mapping} {body node : Value} {steps : List Step} {kind : QueryKind}
    (hm : v.entries? = some m) (hbody : Mapping.get? m (.str "QUERY") = some body)
    (hnode : Query.NodeAt body steps node) (hentries : node.entries? = some entries)
    (hkind : kind ∈ Query.kindsOf entries) :
    RoleAt v (.key "QUERY" :: steps) (.node kind) entries
  | range {m entries : Mapping} {body : Value} {steps : List Step}
    (hnode : RoleAt v steps (.node .range) m) (hbody : Mapping.get? m (.str "range") = some body)
    (hentries : body.entries? = some entries) : RoleAt v (steps ++ [.key "range"]) .range entries
  | proximity {m entries : Mapping} {body : Value} {steps : List Step}
    (hnode : RoleAt v steps (.node .proximity) m)
    (hbody : Mapping.get? m (.str "proximity") = some body)
    (hentries : body.entries? = some entries) :
    RoleAt v (steps ++ [.key "proximity"]) .proximity entries

variable {place : Place} {v w body : Value} {m before behind : Mapping} {name : String}
  {steps : List Step} {kind : QueryKind} {t : Template} {q : Query}

/-! ### A mapping with one entry more -/

theorem keys_append_cons_eq (before behind : Mapping) (key : Scalar) (w : Value) :
    Mapping.keys (before ++ (key, w) :: behind) = before.keys ++ key :: behind.keys := by
  simp [Mapping.keys]

/-- One key more does not change what stands at the others. -/
theorem get?_append_cons_of_ne {other : String} (h : name ≠ other) (before behind : Mapping)
    (w : Value) : Mapping.get? (before ++ (.str name, w) :: behind) (.str other)
      = Mapping.get? (before ++ behind) (.str other) := by
  induction before with
  | nil =>
    rw [List.nil_append, List.nil_append, Mapping.get?_cons, Scalar.same_str, beq_false_of_ne h,
      if_neg Bool.false_ne_true]
  | cons entry rest ih =>
    obtain ⟨k, u⟩ := entry
    rw [List.cons_append, List.cons_append, Mapping.get?_cons, Mapping.get?_cons, ih]

/-- The one key without a meaning is told. -/
theorem checkKeys_append_cons {owner : Option String} {allowed : List String}
    (hkeys : ∀ key ∈ Mapping.keys (before ++ behind), ∃ name ∈ allowed, key = .str name)
    (hname : name ∉ allowed) :
    checkKeys place owner allowed (before ++ (.str name, w) :: behind)
      = .error (.unknownKeys place owner [.str name]) := by
  have hknown (part : Mapping) (h : part ⊆ before ++ behind) :
      part.keys.filter (isUnknown allowed) = [] := by
    rw [List.filter_eq_nil_iff]
    intro key hkey
    rw [Bool.not_eq_true, isUnknown_eq_false_iff]
    exact hkeys key (List.map_subset _ h hkey)
  have hunknown : isUnknown allowed (.str name) = true := by simpa [isUnknown] using hname
  rw [checkKeys, keys_append_cons_eq, List.filter_append, List.filter_cons_of_pos hunknown,
    hknown before (List.subset_append_left _ _), hknown behind (List.subset_append_right _ _)]
  rfl

theorem Query.kindsOf_append_cons_perm (before behind : Mapping) (name : String) (w : Value) :
    (Query.kindsOf (before ++ (.str name, w) :: behind)).Perm
      ((QueryKind.ofKey? (.str name)).toList ++ Query.kindsOf (before ++ behind)) := by
  have hkeys : (Mapping.keys (before ++ (.str name, w) :: behind)).Perm
      (.str name :: Mapping.keys (before ++ behind)) := Mapping.keys_perm List.perm_middle
  have hkinds := hkeys.filterMap QueryKind.ofKey?
  rw [List.filterMap_cons] at hkinds
  cases hname : QueryKind.ofKey? (.str name) with
  | none =>
    rw [hname] at hkinds
    exact hkinds
  | some kind =>
    rw [hname] at hkinds
    exact hkinds

/-- A node with a key that it does not know is refused: it is of two kinds, or the key is told. -/
theorem Query.parse_append_cons (hkind : Query.kindsOf (before ++ behind) = [kind])
    (hkeys : ∀ key ∈ Mapping.keys (before ++ behind),
      ∃ name ∈ kind.name :: kind.companions, key = .str name)
    (hname : name ∉ kind.name :: kind.companions) :
    Query.parse place (.map (before ++ (.str name, w) :: behind))
      = .error ((Role.node kind).refusal place name) := by
  have hkinds := Query.kindsOf_append_cons_perm before behind name w
  rw [hkind] at hkinds
  rw [Query.parse_map, Role.refusal]
  cases hof : QueryKind.ofKey? (.str name) with
  | some other =>
    rw [hof] at hkinds
    cases hsole : Query.soleKind place (before ++ (.str name, w) :: behind) with
    | error e =>
      obtain ⟨rfl, -⟩ := Query.refuses_soleKind _ _ e hsole
      rfl
    | ok found =>
      rw [Query.soleKind_eq_ok_iff.mp hsole] at hkinds
      cases hkinds.length_eq
  | none =>
    rw [hof] at hkinds
    rw [Query.soleKind_eq_ok_iff.mpr (List.perm_singleton.mp hkinds), ok_bind,
      checkKeys_append_cons hkeys hname]
    rfl

theorem Query.known_of_readRange (hm : v.entries? = some m) (h : Query.readRange place v = .ok q) :
    ∀ key ∈ m.keys, ∃ name ∈ Role.range.keys, key = .str name := by
  rw [Query.readRange, expectMapping_eq_ok_iff.mpr (Value.entries?_eq_some_iff.mp hm), ok_bind,
    bind_eq_ok_iff] at h
  obtain ⟨_, hkeys, -⟩ := h
  exact checkKeys_eq_ok_iff.mp hkeys

theorem Query.readRange_append_cons
    (hkeys : ∀ key ∈ Mapping.keys (before ++ behind), ∃ name ∈ Role.range.keys, key = .str name)
    (hname : name ∉ Role.range.keys) :
    Query.readRange place (.map (before ++ (.str name, w) :: behind))
      = .error (Role.range.refusal place name) := by
  have hrefused : checkKeys place none ["start", "end", "include_left", "include_right"]
      (before ++ (.str name, w) :: behind) = _ := checkKeys_append_cons hkeys hname
  rw [Query.readRange, expectMapping_eq_ok_iff.mpr (Value.bare_map _), ok_bind, hrefused]
  rfl

/-- The description of two words in proximity is read at its own keys alone. -/
theorem Query.readProximity_append_cons (hbody : body.entries? = some (before ++ behind))
    (hname : name ∉ Role.proximity.keys) :
    Query.readProximity place (.map (before ++ (.str name, w) :: behind))
      = Query.readProximity place body := by
  simp only [Role.keys, List.mem_cons, not_or] at hname
  obtain ⟨hfirst, hsecond, hdistance, -⟩ := hname
  rw [Query.readProximity, Query.readProximity,
    expectMapping_eq_ok_iff.mpr (Value.entries?_eq_some_iff.mp hbody),
    expectMapping_eq_ok_iff.mpr (Value.bare_map _), ok_bind, ok_bind]
  simp only [Query.readText, Query.readNumber, requireKey, get?_append_cons_of_ne hfirst,
    get?_append_cons_of_ne hsecond, get?_append_cons_of_ne hdistance]

/-! ### Templates -/

/-- A template with a key that it does not know is refused. -/
theorem Template.parse_append_cons
    (hkeys : ∀ key ∈ Mapping.keys (before ++ behind),
      ∃ name ∈ Role.template.keys, key = .str name) (hname : name ∉ Role.template.keys) :
    Template.parse place (.map (before ++ (.str name, w) :: behind))
      = .error (Role.template.refusal place name) := by
  have hrefused : checkKeys place none ["NAME", "QUERY", "DATA"]
      (before ++ (.str name, w) :: behind) = _ := checkKeys_append_cons hkeys hname
  rw [Template.parse, expectMapping_eq_ok_iff.mpr (Value.bare_map _), ok_bind, hrefused]
  rfl

/-- A template that is read has keys that it knows and a query, and what is read from it is made of
what is read from the value in the place of that query. -/
theorem Template.exists_parse_put (h : Template.parse place v = .ok t)
    (hm : v.entries? = some m) :
    (∀ key ∈ m.keys, ∃ name ∈ Role.template.keys, key = .str name) ∧
    ∃ body, Mapping.get? m (.str "QUERY") = some body ∧
      Query.parse (place.key "QUERY") body = .ok t.query ∧
      ∀ x, Template.parse place (v.put [.key "QUERY"] x)
        = (fun query => { t with query }) <$> Query.parse (place.key "QUERY") x := by
  rw [Template.parse, expectMapping_eq_ok_iff.mpr (Value.entries?_eq_some_iff.mp hm), ok_bind,
    bind_eq_ok_iff] at h
  obtain ⟨_, hkeys, h⟩ := h
  obtain ⟨name, hname, h⟩ := bind_eq_ok_iff.mp h
  obtain ⟨data, hdata, h⟩ := bind_eq_ok_iff.mp h
  obtain ⟨body, hbody, h⟩ := bind_eq_ok_iff.mp h
  obtain ⟨query, hquery, h⟩ := bind_eq_ok_iff.mp h
  obtain rfl := Except.ok.inj h
  have hknown := checkKeys_eq_ok_iff.mp hkeys
  rw [requireKey_eq_ok_iff] at hbody
  refine ⟨hknown, body, hbody, hquery, fun x => ?_⟩
  have hentries := Value.entries?_put_key hm hbody x
  have hsame : Mapping.keys (Mapping.set m (.str "QUERY") x) = m.keys := by
    rw [Mapping.keys_set, hbody]
    rfl
  have hname' : Template.readName place (Mapping.set m (.str "QUERY") x) = .ok name := by
    rw [← hname, Template.readName, Template.readName, Query.get?_set_of_ne (by decide)]
  have hdata' : Template.readData place (Mapping.set m (.str "QUERY") x) = .ok data := by
    rw [← hdata, Template.readData, Template.readData, Query.get?_set_of_ne (by decide)]
  rw [Template.parse, expectMapping_eq_ok_iff.mpr (Value.entries?_eq_some_iff.mp hentries), ok_bind,
    checkKeys_eq_ok_iff.mpr (hsame ▸ hknown), ok_bind, hname', ok_bind, hdata', ok_bind,
    requireKey_eq_ok_iff.mpr (Query.get?_set_self _ _ _), ok_bind]
  rfl

/-- A node of a template that is read has one kind and keys that it knows, it is read by itself, and
what is read from the template is made of what is read in the place of the node. -/
theorem RoleAt.exists_node (h : Template.parse place v = .ok t)
    (hat : RoleAt v steps (.node kind) m) :
    ∃ (node : Value) (q : Query) (f : Query → Template),
      v.follow? steps = some node ∧ node.entries? = some m ∧ Query.kindsOf m = [kind] ∧
      (∀ key ∈ m.keys, ∃ name ∈ kind.name :: kind.companions, key = .str name) ∧
      Query.parse (place.extend steps) node = .ok q ∧
      ∀ x, Template.parse place (v.put steps x) = f <$> Query.parse (place.extend steps) x := by
  cases hat with
  | @node outer _ body node steps _ hm hbody hnode hentries hkind =>
    obtain ⟨-, body', hbody', hread, hput⟩ := Template.exists_parse_put h hm
    obtain rfl := Option.some.inj (hbody.symm.trans hbody')
    have hfront := Value.follow?_key hm hbody
    obtain ⟨q, hq⟩ := hnode.parse_eq_ok hread
    obtain ⟨g, hg⟩ := hnode.exists_parse_put hread
    rw [Place.key_eq_extend, Place.extend_extend] at hq
    have hsteps : Step.key "QUERY" :: steps = [.key "QUERY"] ++ steps := rfl
    obtain ⟨found, _, hone, hknown, -, -⟩ := (Query.parse_eq_ok_iff_of_entries? hentries).mp hq
    rw [hone, List.mem_singleton] at hkind
    subst hkind
    refine ⟨node, q, (fun query => { t with query }) ∘ g, ?_, hentries, hone, hknown, hq, ?_⟩
    · rw [hsteps, Value.follow?_append_of_eq_some hfront, hnode.follow?]
    · intro x
      rw [hsteps, Value.put_append hfront, hput, hg, Place.key_eq_extend, Place.extend_extend]
      cases Query.parse (place.extend ([.key "QUERY"] ++ steps)) x <;> rfl

/-- The body of a node with one key is read in the place of that body. -/
theorem RoleAt.exists_body (h : Template.parse place v = .ok t)
    (hat : RoleAt v steps (.node kind) m) (hbody : Mapping.get? m (.str kind.name) = some body) :
    ∃ (q : Query) (f : Query → Template), f q = t ∧
      Query.readBody (place.extend steps) kind m body = .ok q ∧
      ∀ x, Template.parse place (v.put (steps ++ [.key kind.name]) x)
        = f <$> Query.readBody (place.extend steps) kind (m.set (.str kind.name) x) x := by
  obtain ⟨node, q, f, hnode, hm, hkind, hkeys, hq, hput⟩ := hat.exists_node h
  refine ⟨q, f, ?_, ?_, fun x => ?_⟩
  · have hwhole := hput node
    rw [Value.put_of_follow? hnode, h, hq] at hwhole
    exact (Except.ok.inj hwhole).symm
  · rw [← Query.parse_of_known hm hkind hkeys hbody, hq]
  · rw [Value.put_append hnode, hput,
      Query.parse_put_key hm hkind hkeys hbody (Query.get?_set_self _ _ _)]

/-! ### All mappings of a template -/

/-- Take a template that is read, and any mapping in it that is read as the template itself, as a
node of its query however deep it lies, or as the body of a range or of two words in proximity. In
all but the last, every key is one that the grammar gives to that mapping. Any other text as one key
more, wherever it stands among the others, is refused under the place of the mapping; but in the
body of two words in proximity it is ignored, and the same template is read. -/
theorem unknown_key_refused_or_ignored (h : Template.parse place v = .ok t) {role : Role}
    (hat : RoleAt v steps role m) :
    (role ≠ .proximity → ∀ key ∈ m.keys, ∃ name ∈ role.keys, key = .str name) ∧
    ∀ (before behind : Mapping) (name : String) (w : Value), m = before ++ behind →
      name ∉ role.keys →
      Template.parse place (v.put steps (.map (before ++ (.str name, w) :: behind)))
        = if role = .proximity then .ok t
          else .error (role.refusal (place.extend steps) name) := by
  cases role with
  | template =>
    cases hat with
    | template hm =>
      obtain ⟨hkeys, -⟩ := Template.exists_parse_put h hm
      refine ⟨fun _ => hkeys, ?_⟩
      rintro before behind name w rfl hname
      rw [if_neg (by simp), Value.put_nil, Template.parse_append_cons hkeys hname]
      rfl
  | node kind =>
    obtain ⟨node, q, f, hnode, hm, hkind, hkeys, hq, hput⟩ := hat.exists_node h
    refine ⟨fun _ => hkeys, ?_⟩
    rintro before behind name w rfl hname
    rw [if_neg (by simp), hput, Query.parse_append_cons hkind hkeys hname]
    rfl
  | range =>
    cases hat with
    | range hnode hbody hentries =>
      obtain ⟨q, f, -, hread, hput⟩ := hnode.exists_body h hbody
      have hkeys := Query.known_of_readRange hentries hread
      refine ⟨fun _ => hkeys, ?_⟩
      rintro before behind name w rfl hname
      refine (hput _).trans ?_
      rw [if_neg (by simp), Query.readBody, Query.readRange_append_cons hkeys hname,
        ← Place.extend_extend]
      rfl
  | proximity =>
    cases hat with
    | proximity hnode hbody hentries =>
      obtain ⟨q, f, rfl, hread, hput⟩ := hnode.exists_body h hbody
      refine ⟨fun hne => absurd rfl hne, ?_⟩
      rintro before behind name w rfl hname
      refine (hput _).trans ?_
      rw [if_pos rfl, Query.readBody, Query.readProximity_append_cons hentries hname]
      exact congrArg (f <$> ·) hread

/-- One key more in a range, and one in the body of words in proximity that are in a boost. -/
theorem unknown_key_refused_or_ignored_in_nodes :
    let q : Query :=
      .boolean .and [.range "a" "b" false true, .boost (.proximity "c" "d" (.int 1)) (.int 2)]
    let v : Value := .map [(.str "QUERY", q.written)]
    let toRange : List Step := [.key "QUERY", .key "and", .index 0, .key "range"]
    let toWords : List Step :=
      [.key "QUERY", .key "and", .index 1, .key "boost", .key "proximity"]
    Template.parse ⟨"t", []⟩ v = .ok ⟨none, q, []⟩ ∧
      Template.parse ⟨"t", []⟩ (v.put toRange (.map [(.str "start", .str "a"),
          (.str "include", .bool true), (.str "end", .str "b"),
          (.str "include_left", .bool false), (.str "include_right", .bool true)]))
        = .error (.unknownKeys ⟨"t", toRange⟩ none [.str "include"]) ∧
      Template.parse ⟨"t", []⟩ (v.put toWords (.map [(.str "first", .str "c"),
          (.str "slop", .int 3), (.str "second", .str "d"), (.str "distance", .int 1)]))
        = .ok ⟨none, q, []⟩ := by
  intro q v toRange toWords
  have hv : Template.parse ⟨"t", []⟩ v = .ok ⟨none, q, []⟩ := by
    show (Query.parse (Place.key ⟨"t", []⟩ "QUERY") q.written >>= _) = _
    rw [Query.parse_written]
    rfl
  have hrange : RoleAt v toRange .range [(.str "start", .str "a"), (.str "end", .str "b"),
      (.str "include_left", .bool false), (.str "include_right", .bool true)] := by
    have hnode : Query.NodeAt q.written [.key "and", .index 0] _ :=
      .part (.child rfl rfl (.inr ⟨.and, rfl⟩) rfl rfl rfl) (.here _)
    have hat : RoleAt v [.key "QUERY", .key "and", .index 0] (.node .range) _ :=
      .node rfl rfl hnode rfl (List.mem_singleton.mpr rfl : QueryKind.range ∈ [.range])
    exact .range hat rfl rfl
  have hwords : RoleAt v toWords .proximity [(.str "first", .str "c"), (.str "second", .str "d"),
      (.str "distance", .int 1)] := by
    have hboost : Query.PartAt q.written [.key "and", .index 1] _ :=
      .child rfl rfl (.inr ⟨.and, rfl⟩) rfl rfl rfl
    have hbody : Query.PartAt (Query.written (.boost (.proximity "c" "d" (.int 1)) (.int 2)))
        [.key "boost"] _ := .body rfl rfl (.inr (.inl rfl)) rfl
    have hat : RoleAt v [.key "QUERY", .key "and", .index 1, .key "boost"] (.node .proximity) _ :=
      .node rfl rfl (.part hboost (.part hbody (.here _))) rfl
        (List.mem_singleton.mpr rfl : QueryKind.proximity ∈ [.proximity])
    exact .proximity hat rfl rfl
  obtain ⟨-, hrefused⟩ := unknown_key_refused_or_ignored hv hrange
  obtain ⟨-, hignored⟩ := unknown_key_refused_or_ignored hv hwords
  exact ⟨hv, hrefused [_] [_, _, _] "include" _ rfl (by decide),
    hignored [_] [_, _] "slop" _ rfl (by decide)⟩

/-- A key that no grammar gives is accepted beside two words, and nothing of it is left. -/
theorem misspelt_key_beside_words_accepted :
    let words : Mapping := [(.str "first", .str "a"), (.str "second", .str "b"),
      (.str "distance", .int 3), (.str "in_order", .bool true)]
    let v : Value := .map [(.str "QUERY", .map [(.str "proximity", .map words)])]
    RoleAt v [.key "QUERY", .key "proximity"] .proximity words ∧
      "in_order" ∉ Role.proximity.keys ∧
      Template.parse ⟨"t", []⟩ v = .ok ⟨none, .proximity "a" "b" (.int 3), []⟩ := by
  intro words v
  have hat : RoleAt v [.key "QUERY"] (.node .proximity) _ :=
    .node rfl rfl (.here _) rfl (List.mem_singleton.mpr rfl : QueryKind.proximity ∈ [.proximity])
  refine ⟨.proximity hat rfl rfl, by decide, ?_⟩
  have hquery (place : Place) : Query.parse place (.map [(.str "proximity", .map words)])
      = .ok (.proximity "a" "b" (.int 3)) := Query.parse_singleton place .proximity _
  show (Query.parse (Place.key ⟨"t", []⟩ "QUERY") _ >>= _) = _
  rw [hquery]
  rfl

end QueryTemplates
