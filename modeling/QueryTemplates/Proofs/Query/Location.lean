import QueryTemplates.Proofs.Config.Refusal
import QueryTemplates.Proofs.Query.Fault
import QueryTemplates.Proofs.Query.Wording

/-!
# Where a refusal leads

The place in a refusal leads to the fault that it tells of. The nodes of a written query are told by
the steps that lead to them; when the fault lies in a node, that node by itself is refused in the
same words under its place. So a refusal can be understood from the node alone. Main statement:
`parse_error_located`.

About `SPEC_FULL.md` §10.2 (lines 159–163).
-/

namespace QueryTemplates

/-- The refusal names this place or none. -/
def ReadError.OnlyNames (e : ReadError) (place : Place) : Prop :=
  ∀ found, e.place? = some found → found = place

namespace Query

variable {v w part : Value} {place : Place} {m : Mapping} {kind : QueryKind}
  {steps front rest : List Step} {e : ReadError}

/-! ### Down to a part -/

/-- If the place in the refusal lies at the part or behind it, the part is refused alike. -/
def Descends (place : Place) (front : List Step) (part : Value) (e : ReadError) : Prop :=
  ∀ rest, e.place? = some (place.extend (front ++ rest)) →
    parse (place.extend front) part = .error e

/-- What is refused at a place that does not lie at the part or behind it. -/
theorem descends_elsewhere {α : Type} {outcome : Except ReadError α} (steps : List Step)
    (h : FailsOnly (·.OnlyNames (place.extend steps)) outcome)
    (helse : ∀ rest, front ++ rest ≠ steps) : FailsOnly (Descends place front part) outcome := by
  intro e he rest hplace
  exact absurd (Place.extend_inj.mp (h e he _ hplace)) (helse rest)

/-- Unknown keys are told under the place of their mapping. -/
theorem onlyNames_checkKeys (owner : Option String) (allowed : List String) :
    FailsOnly (·.OnlyNames place) (checkKeys place owner allowed m) := by
  intro e h found hfound
  rcases refuses_checkKeys _ _ _ _ e h with ⟨-, keys, -, -, rfl⟩ | ⟨-, hunnamed⟩
  · exact (Option.some.inj hfound).symm
  · rw [hunnamed] at hfound
    cases hfound

theorem onlyNames_requireKey (name : String) :
    FailsOnly (·.OnlyNames place) (requireKey m name place) := by
  intro e h found hfound
  obtain ⟨rfl, -⟩ := refuses_requireKey _ _ _ e h
  exact (Option.some.inj hfound).symm

/-- A value of another shape is told under its place. -/
theorem onlyNames_of_misfit {α : Type} {outcome : Except ReadError α} {wanted : Shape}
    (h : FailsOnly (Misfit place wanted v) outcome) : FailsOnly (·.OnlyNames place) outcome := by
  intro e he found hfound
  obtain ⟨rfl, -⟩ := h e he
  exact (Option.some.inj hfound).symm

theorem onlyNames_readNumber (name : String) :
    FailsOnly (·.OnlyNames (place.key name)) (readNumber place m name) :=
  (onlyNames_requireKey name).bind fun v => onlyNames_of_misfit (refuses_expectNumber _ v)

theorem onlyNames_readSimilarity :
    FailsOnly (·.OnlyNames (place.key "similarity")) (readSimilarity place m) := by
  unfold readSimilarity
  split
  · exact .ok _
  · exact .ok _
  · exact (onlyNames_of_misfit (refuses_expectNumber _ _)).map _

/-- The key of a kind that a mapping names is present. -/
theorem exists_body (hkind : kindsOf m = [kind]) :
    ∃ body, Mapping.get? m (.str kind.name) = some body := by
  have hmem : kind ∈ kindsOf m := by simp [hkind]
  obtain ⟨key, hkey, hnames⟩ := List.mem_filterMap.mp hmem
  rw [← Option.ne_none_iff_exists']
  intro hnone
  have hapart := Mapping.get?_eq_none_iff.mp hnone key hkey
  cases key with
  | str s =>
    have hname := List.find?_some hnames
    rw [beq_iff_eq] at hname
    rw [Scalar.same_str, hname, beq_self_eq_true] at hapart
    cases hapart
  | _ => cases hnames

/-- The keys of a mapping are told under its own place, so that what counts is the body. -/
theorem descends_parse (hm : v.entries? = some m) (hkind : kindsOf m = [kind]) (hfront : front ≠ [])
    (hbody : ∀ body, Mapping.get? m (.str kind.name) = some body →
      FailsOnly (Descends place front part) (readBody place kind m body)) :
    FailsOnly (Descends place front part) (parse place v) := by
  rw [← parse_bare, Value.entries?_eq_some_iff.mp hm, parse_map, soleKind_eq_ok_iff.mpr hkind,
    ok_bind]
  have hkeys : FailsOnly (Descends place front part)
      (checkKeys place (some kind.name) (kind.name :: kind.companions) m) := by
    apply descends_elsewhere [] (onlyNames_checkKeys _ _)
    intro rest h
    exact hfront (List.append_eq_nil_iff.mp h).1
  refine hkeys.bind fun _ => ?_
  obtain ⟨body, hfound⟩ := exists_body hkind
  rw [requireKey_eq_ok_iff.mpr hfound, ok_bind]
  exact hbody body hfound

/-- The part that is to be read there decides. -/
theorem descends_part : FailsOnly (Descends place front part) (parse (place.extend front) part) :=
  fun _ h _ _ => h

theorem key_append_ne {name other : String} (h : name ≠ other) (rest : List Step) :
    [.key name] ++ rest ≠ [.key other] := by
  simp [h]

/-- Items are refused in their order, each under its number. -/
theorem descends_parseItems {items : List Value} {number : Nat}
    (hpart : items[number]? = some part) :
    FailsOnly (Descends place [.index number] part) (parseItems place 0 items) := by
  intro e h rest hplace
  obtain ⟨other, item, hitem, h⟩ := parseItems_eq_error h
  rw [Nat.zero_add, Place.index_eq_extend] at h
  -- the refusal names a place behind the item that is refused, which tells its number
  obtain ⟨steps, hsteps⟩ := (blames_parse _ _ e h).exists_steps hplace
  rw [Place.extend_extend, Place.extend_inj] at hsteps
  obtain ⟨hnumber, -⟩ := List.cons.inj hsteps
  obtain rfl := Step.index.inj hnumber
  rw [hpart] at hitem
  obtain rfl := Option.some.inj hitem
  exact h

/-- Behind a key of a mapping. -/
theorem descends_key {α : Type} {outcome : Except ReadError α} {name : String}
    (h : FailsOnly (Descends (place.extend [.key name]) steps part) outcome) :
    FailsOnly (Descends place (.key name :: steps) part) outcome := by
  intro e he rest hplace
  have hfound := h e he rest
  rw [Place.extend_extend, Place.extend_extend] at hfound
  exact hfound hplace

theorem PartAt.descends (h : PartAt v front part) :
    FailsOnly (Descends place front part) (parse place v) := by
  cases h with
  | query hm hkind hpart =>
    refine descends_parse hm hkind nofun fun body hbody => ?_
    have hname : "query" ≠ QueryKind.field.name := by decide
    have htext := onlyNames_of_misfit (refuses_expectText (place.key QueryKind.field.name) body)
    refine .bind (descends_elsewhere [.key _] htext (key_append_ne hname)) fun _ => ?_
    rw [requireKey_eq_ok_iff.mpr hpart, ok_bind]
    exact descends_part.bind fun query => .ok _
  | body hm hkind hwraps hpart =>
    refine descends_parse hm hkind nofun fun body hbody => ?_
    rw [hpart] at hbody
    obtain rfl := Option.some.inj hbody
    rcases hwraps with rfl | rfl | rfl
    · have hname : QueryKind.fuzzy.name ≠ "similarity" := by decide
      refine .bind (descends_elsewhere [.key _] onlyNames_readSimilarity (key_append_ne hname))
        fun _ => ?_
      exact descends_part.bind fun query => .ok _
    · have hname : QueryKind.boost.name ≠ "factor" := by decide
      refine descends_part.bind fun query => ?_
      exact .bind (descends_elsewhere [.key _] (onlyNames_readNumber _) (key_append_ne hname))
        fun factor => .ok _
    · exact descends_part.bind fun query => .ok _
  | @child _ kind body _ _ number hm hkind hjoins hbody hitems hpart =>
    refine descends_parse hm hkind nofun fun found hfound => ?_
    rw [hbody] at hfound
    obtain rfl := Option.some.inj hfound
    have hchildren : FailsOnly (Descends place [.key kind.name, .index number] part)
        (parseChildren (place.key kind.name) body) := by
      rw [← parseChildren_bare, Value.items?_eq_some_iff.mp hitems, parseChildren_list]
      exact descends_key (descends_parseItems hpart)
    rcases hjoins with rfl | ⟨op, rfl⟩
    · exact hchildren.bind fun _ => .ok _
    · exact hchildren.bind fun _ => .ok _

/-! ### Down to a node -/

/-- The steps lead from a value to a node of the query that is written in it. -/
inductive NodeAt : Value → List Step → Value → Prop
  | here (v : Value) : NodeAt v [] v
  | part {v : Value} {front : List Step} {part : Value} {steps : List Step} {node : Value}
    (hpart : PartAt v front part) (hnode : NodeAt part steps node) : NodeAt v (front ++ steps) node

/-- Steps to a node lead to it. -/
theorem NodeAt.follow? {node : Value} (h : NodeAt v steps node) : v.follow? steps = some node := by
  induction h with
  | here v => exact Value.follow?_nil v
  | part hpart _ ih => rw [Value.follow?_append_of_eq_some hpart.follow?, ih]

/-- The node that the named place lies in is refused as the whole value is. -/
theorem NodeAt.parse_eq_error {node : Value} (hnode : NodeAt v steps node)
    (h : parse place v = .error e) (hplace : e.place? = some (place.extend (steps ++ rest))) :
    parse (place.extend steps) node = .error e := by
  induction hnode generalizing place with
  | here v => exact h
  | @part v front part steps node hpart _ ih =>
    rw [List.append_assoc] at hplace
    have hrefused := hpart.descends e h _ hplace
    rw [← Place.extend_extend] at hplace ⊢
    exact ih hrefused hplace

/-! ### Texts as keys -/

/-- Where all keys are texts, keys without a meaning can be told. -/
theorem Blames.marks_or_endless (hv : v.TextKeyed) (h : Blames v place e) :
    (∃ steps, Marks v place steps e) ∨ EndlessIn v e := by
  cases h with
  | marked h => exact .inl ⟨_, h⟩
  | unlistable hw hm _ _ hkeys =>
    have htexts := (hv.of_follow? hw).allTexts hm
    exact absurd (htexts.filter _).listable hkeys
  | endless h => exact .inr h

/-- A value whose keys are texts is refused for a fault that it has at the place that the refusal
names, and the nodes on the way there are refused in the same words under their own places. The one
exception is a value that holds itself and is read without end. -/
theorem parse_error_located (hv : v.TextKeyed) {root : String}
    (h : parse ⟨root, []⟩ v = .error e) :
    (∃ steps, Marks v ⟨root, []⟩ steps e ∧ e.Names ⟨root, steps⟩ ∧ e.category.IsRefusal ∧
      ∀ front rest node, steps = front ++ rest → NodeAt v front node →
        ∃ e', parse ⟨(Place.mk root front).text, []⟩ node = .error e' ∧
          e'.category = e.category ∧ e'.message = e.message) ∨
    EndlessIn v e := by
  refine (blames_parse _ v e h).marks_or_endless hv |>.imp (fun ⟨steps, hmarks⟩ => ?_) id
  have hplace := hmarks.place?_eq
  refine ⟨steps, hmarks, ?_, ?_, ?_⟩
  · apply ReadError.names_of_place?
    rw [hplace, Place.extend_eq]
    rfl
  · rcases expected_parse _ v e h with rfl | hcategory
    · cases hplace
    · exact hcategory
  · rintro front rest node rfl hnode
    have hrefused := hnode.parse_eq_error h hplace
    rw [Place.extend_eq] at hrefused
    have htext : (Place.mk root front).text = (Place.mk (Place.mk root front).text []).text :=
      (Place.text_root _).symm
    obtain ⟨e', he', htold⟩ := (toldByText node _ _ htext).exists_error hrefused
    exact ⟨e', he', (Prod.mk.inj htold).1, (Prod.mk.inj htold).2⟩

/-- The refusal of a range without an end is the one that the whole query has. -/
theorem parse_error_located_in_nodes :
    let range : Value := .map [(.str "range", .map [(.str "start", .str "a")])]
    let field : Value := .map [(.str "field", .str "f"), (.str "query", range)]
    let boost : Value := .map [(.str "boost", field), (.str "factor", .int 2)]
    let v : Value := .map [(.str "and", .list [.str "x", boost])]
    v.TextKeyed ∧
      parse ⟨"q", []⟩ v = .error (.missing ⟨"q", [.key "and", .index 1, .key "boost", .key "query",
        .key "range", .key "end"]⟩) ∧
      ∃ e, parse ⟨"q.and[1].boost.query", []⟩ range = .error e ∧
        e.message = "Missing required config: q.and[1].boost.query.range.end" := by
  intro range field boost v
  have hbounds : (Value.map [(.str "start", .str "a")]).TextKeyed :=
    .map (by simp [AllTexts, Mapping.keys]) (.singleton _ _) (by simp [Value.TextKeyed.scalar])
  have hrange : range.TextKeyed :=
    .map (by simp [AllTexts, Mapping.keys]) (.singleton _ _) (by simp [hbounds])
  have hfield : field.TextKeyed :=
    .map (by simp [AllTexts, Mapping.keys]) (by decide) (by simp [hrange, Value.TextKeyed.scalar])
  have hboost : boost.TextKeyed :=
    .map (by simp [AllTexts, Mapping.keys]) (by decide) (by simp [hfield, Value.TextKeyed.scalar])
  have hitems : (Value.list [.str "x", boost]).TextKeyed :=
    .list (by simp [hboost, Value.TextKeyed.scalar])
  have hv : v.TextKeyed :=
    .map (by simp [AllTexts, Mapping.keys]) (.singleton _ _) (by simp [hitems])
  have hrefusedRange (place : Place) :
      parse place range = .error (.missing ((place.key "range").key "end")) := by
    rw [parse_map]
    rfl
  have hrefusedField (place : Place) :
      parse place field = .error (.missing (((place.key "query").key "range").key "end")) := by
    rw [parse_map]
    show (parse (place.key "query") range >>= _) = _
    rw [hrefusedRange, error_bind]
  have hrefusedBoost (place : Place) : parse place boost
      = .error (.missing ((((place.key "boost").key "query").key "range").key "end")) := by
    rw [parse_map]
    show (parse (place.key "boost") field >>= _) = _
    rw [hrefusedField, error_bind]
  have hrefused : parse ⟨"q", []⟩ v = .error (.missing ⟨"q", [.key "and", .index 1, .key "boost",
      .key "query", .key "range", .key "end"]⟩) := by
    show parse _ (.map [(.str (QueryKind.boolean .and).name, _)]) = _
    rw [parse_singleton, readBody, parseChildren_list, parseItems_cons, parse_str, ok_bind,
      parseItems_cons, hrefusedBoost]
    rfl
  have hchild : PartAt v [.key (QueryKind.boolean .and).name, .index 1] boost :=
    .child rfl rfl (.inr ⟨_, rfl⟩) rfl rfl rfl
  have hbody : PartAt boost [.key QueryKind.boost.name] field :=
    .body rfl rfl (.inr (.inl rfl)) rfl
  have hquery : PartAt field [.key "query"] range := .query rfl rfl rfl
  have hnode : NodeAt v [.key "and", .index 1, .key "boost", .key "query"] range :=
    .part hchild (.part hbody (.part hquery (.here range)))
  refine ⟨hv, hrefused, ?_⟩
  rcases parse_error_located hv hrefused with ⟨steps, hmarks, -, -, hnodes⟩ | ⟨hend, -⟩
  · have hplace := Option.some.inj hmarks.place?_eq
    rw [Place.extend_eq] at hplace
    obtain rfl : _ = steps := (Place.mk.inj hplace).2
    obtain ⟨e', he', -, hmessage⟩ := hnodes _ [.key "range", .key "end"] _ rfl hnode
    exact ⟨e', he', hmessage⟩
  · cases hend

/-! ### Queries without an end -/

/-- A query that requires itself, laid out for a number of levels. -/
def selfRequired (mark : LoopMark) : Nat → Value
  | 0 => .endless
  | levels + 1 => .loop mark (.map [(.str QueryKind.required.name, selfRequired mark levels)])

theorem textKeyed_selfRequired (mark : LoopMark) (levels : Nat) :
    (selfRequired mark levels).TextKeyed := by
  induction levels with
  | zero => exact .endless
  | succ levels ih =>
    exact .loop mark (.map (by simp [AllTexts, Mapping.keys]) (.singleton _ _) (by simp [ih]))

/-- Level by level the same query is read again, so that no level has the fault. -/
theorem parse_selfRequired (mark : LoopMark) (levels : Nat) (place : Place) :
    parse place (selfRequired mark levels) = .error .endless := by
  induction levels generalizing place with
  | zero => rw [selfRequired, parse]
  | succ levels ih =>
    rw [selfRequired, parse, parse_singleton]
    show (parse _ _ >>= _) = _
    rw [ih, error_bind]

/-- The keys of a query that requires itself are texts, but its refusal names no place at all and is
of another category. -/
theorem self_required_not_located :
    let v := selfRequired ⟨0, none⟩ KnownValues.loopLevels
    v.TextKeyed ∧ ∃ e, parse ⟨"q", []⟩ v = .error e ∧ e.place? = none ∧ ¬e.category.IsRefusal ∧
      ¬∃ steps, e.Names ⟨"q", steps⟩ := by
  refine ⟨textKeyed_selfRequired _ _, .endless, parse_selfRequired _ _ _, rfl, ?_, ?_⟩
  · rintro (h | h) <;> cases h
  · -- the words of the refusal hold no letter q, with which every place here begins
    rintro ⟨steps, before, behind, hmessage⟩
    have hnone : 'q' ∉ ReadError.endless.message.toList := by decide
    apply hnone
    rw [hmessage]
    simp [Place.text]

end Query

end QueryTemplates
