import QueryTemplates.Proofs.Config.Refusal
import QueryTemplates.Proofs.Query.Fault

/-!
# Refusals without a place

A query or a template that is refused is refused under a place, whatever the keys in it are. There
are two ways past this. Keys without a meaning are to be listed in the refusal; when they have no
order with one another, or one is an integer with too many digits, that fails and the failure is
what is told. And a value that holds itself is read without end. Main statement:
`refusal_names_place_iff`.

About `SPEC_FULL.md` §10.2 (lines 159–163).
-/

namespace QueryTemplates

/-- A mapping that steps lead to, in a query or as a template, has keys without a meaning that
cannot be listed, and the refusal is what comes of listing them. -/
inductive UnlistedIn (v : Value) (e : ReadError) : Prop
  | query {steps : List Step} {w : Value} {m : Mapping} {place : Place} {owner : Option String}
    {allowed : List String} (hw : v.follow? steps = some w) (hm : w.entries? = some m)
    (hallowed : Query.Allows v steps owner allowed)
    (hcheck : checkKeys place owner allowed m = .error e)
    (hkeys : ¬Listable (m.keys.filter (isUnknown allowed))) : UnlistedIn v e
  | template {m : Mapping} {place : Place} (hm : v.entries? = some m)
    (hcheck : checkKeys place none ["NAME", "QUERY", "DATA"] m = .error e)
    (hkeys : ¬Listable (m.keys.filter (isUnknown ["NAME", "QUERY", "DATA"]))) : UnlistedIn v e

/-- What a value is refused with under a root. -/
inductive RefusedUnder (root : String) (v : Value) (e : ReadError) : Prop
  | named {steps : List Step} (h : e.place? = some ⟨root, steps⟩)
  | unlisted (h : UnlistedIn v e)
  | endless (h : Query.EndlessIn v e)

variable {root : String} {v : Value} {e : ReadError}

/-- Keys that cannot be listed are told without a place. -/
theorem UnlistedIn.place?_eq_none (h : UnlistedIn v e) : e.place? = none := by
  cases h with
  | query _ _ _ hcheck hkeys => exact place?_eq_none_of_not_listable _ _ hcheck hkeys
  | template _ hcheck hkeys => exact place?_eq_none_of_not_listable _ _ hcheck hkeys

/-- A part that is read as a query is refused under the root of the whole. -/
theorem refusedUnder_of_blames {part : Value} {front : List Step}
    (hpart : v.follow? front = some part)
    (h : Query.Blames part (Place.extend ⟨root, []⟩ front) e) : RefusedUnder root v e := by
  cases h.lift hpart with
  | marked hmarks =>
    have hplace := hmarks.place?_eq
    rw [Place.extend_eq] at hplace
    exact .named hplace
  | unlistable hw hm hallowed hcheck hkeys => exact .unlisted (.query hw hm hallowed hcheck hkeys)
  | endless h => exact .endless h

/-- A query is refused under its place, or for keys or a loop without one. -/
theorem refusedUnder_query : FailsOnly (RefusedUnder root v) (Query.parse ⟨root, []⟩ v) :=
  fun _ h => refusedUnder_of_blames (Value.follow?_nil v) (Query.blames_parse _ v _ h)

/-! ### Templates -/

theorem refusedUnder_of_misfit {α : Type} {outcome : Except ReadError α} {steps : List Step}
    {wanted : Shape} {w : Value} (h : FailsOnly (Misfit ⟨root, steps⟩ wanted w) outcome) :
    FailsOnly (RefusedUnder root v) outcome := by
  intro e he
  obtain ⟨rfl, -⟩ := h e he
  exact .named rfl

theorem refusedUnder_template : FailsOnly (RefusedUnder root v) (Template.parse ⟨root, []⟩ v) := by
  refine (refusedUnder_of_misfit (refuses_expectMapping _ v)).bind_of_ok fun m hmapping => ?_
  have hm := Value.entries?_eq_some_iff.mpr (expectMapping_eq_ok_iff.mp hmapping)
  have hkeys : FailsOnly (RefusedUnder root v)
      (checkKeys ⟨root, []⟩ none ["NAME", "QUERY", "DATA"] m) := by
    intro e h
    rcases refuses_checkKeys _ _ _ _ e h with ⟨-, keys, -, -, rfl⟩ | ⟨hkeys, -⟩
    · exact .named rfl
    · exact .unlisted (.template hm h hkeys)
  have hname : FailsOnly (RefusedUnder root v) (Template.readName ⟨root, []⟩ m) := by
    unfold Template.readName
    split
    · exact (refusedUnder_of_misfit (refuses_expectText ⟨root, [.key "NAME"]⟩ _)).map _
    · exact .ok _
  have hdata : FailsOnly (RefusedUnder root v) (Template.readData ⟨root, []⟩ m) := by
    unfold Template.readData
    split
    · exact refusedUnder_of_misfit (refuses_expectMapping ⟨root, [.key "DATA"]⟩ _)
    · exact .ok _
  have hquery : FailsOnly (RefusedUnder root v)
      (requireKey m "QUERY" (Place.key ⟨root, []⟩ "QUERY")) := by
    intro e h
    obtain ⟨rfl, -⟩ := refuses_requireKey _ _ _ e h
    exact .named rfl
  refine hkeys.bind fun _ => hname.bind fun name => hdata.bind fun data => ?_
  refine hquery.bind_of_ok fun body hbody => ?_
  have hpart := Value.follow?_key hm (requireKey_eq_ok_iff.mp hbody)
  exact .bind (fun e h => refusedUnder_of_blames hpart (Query.blames_parse _ body e h))
    fun query => .ok _

/-! ### Both readers -/

/-- A refusal of a query or of a template names a place under the root that it is read under, and
is that of a wrong kind or a bad value, unless keys cannot be listed or a loop is read without end;
in these cases it names no place. -/
theorem refusal_names_place_iff
    (h : Query.parse ⟨root, []⟩ v = .error e ∨ Template.parse ⟨root, []⟩ v = .error e) :
    ((∃ steps, e.place? = some ⟨root, steps⟩ ∧ e.Names ⟨root, steps⟩ ∧ e.category.IsRefusal) ↔
      ¬UnlistedIn v e ∧ ¬Query.EndlessIn v e) ∧
    (UnlistedIn v e ∨ Query.EndlessIn v e → e.place? = none) := by
  have hrefused : RefusedUnder root v e :=
    h.elim (refusedUnder_query e) (refusedUnder_template e)
  have hexpected : e.Expected :=
    h.elim (Query.expected_parse _ v e) (Template.expected_parse _ v e)
  have hunnamed (hpast : UnlistedIn v e ∨ Query.EndlessIn v e) : e.place? = none := by
    rcases hpast with hunlisted | ⟨rfl, -⟩
    · exact hunlisted.place?_eq_none
    · rfl
  refine ⟨⟨?_, ?_⟩, hunnamed⟩
  · rintro ⟨steps, hplace, -, -⟩
    rw [← not_or]
    intro hpast
    rw [hunnamed hpast] at hplace
    cases hplace
  · rintro ⟨hlisted, hends⟩
    cases hrefused with
    | @named steps hplace =>
      refine ⟨steps, hplace, ReadError.names_of_place? hplace, ?_⟩
      rcases hexpected with rfl | hcategory
      · cases hplace
      · exact hcategory
    | unlisted hunlisted => exact absurd hunlisted hlisted
    | endless hendless => exact absurd hendless hends

/-- Keys of two kinds in the query of a template are refused without a place. -/
theorem refusal_names_place_iff_in_template :
    let query : Mapping := [(.null, .int 1), (.str "raw", .str "x"), (.int 5, .int 2)]
    let v : Value := .map [(.str "QUERY", .map query)]
    ∃ e, Template.parse ⟨"t", []⟩ v = .error e ∧ UnlistedIn v e ∧ e.place? = none := by
  intro query v
  have hcheck (place : Place) : checkKeys place (some "raw") ["raw"] query
      = .error (.access (.notComparable "<" .int .null)) := rfl
  have hparse (place : Place) : Query.parse place (.map query)
      = .error (.access (.notComparable "<" .int .null)) := by
    rw [Query.parse_map]
    rfl
  have hrefused : Template.parse ⟨"t", []⟩ v
      = .error (.access (.notComparable "<" .int .null)) := by
    show (Query.parse (Place.key ⟨"t", []⟩ "QUERY") (.map query) >>= _) = _
    rw [hparse, error_bind]
  have hkeys : ¬Listable (query.keys.filter (isUnknown ["raw"])) := by
    intro hlistable
    obtain ⟨sorted, hsorted, -⟩ := listable_iff.mp hlistable
    cases hsorted
  have hallowed : Query.Allows v [.key "QUERY"] (some QueryKind.raw.name) _ := .node rfl rfl rfl
  have hunlisted : UnlistedIn v (.access (.notComparable "<" .int .null)) :=
    .query rfl rfl hallowed (hcheck ⟨"t", []⟩) hkeys
  exact ⟨_, hrefused, hunlisted, (refusal_names_place_iff (.inr hrefused)).2 (.inl hunlisted)⟩

/-- Keys of two kinds are not told, and neither is the place. -/
theorem keys_of_two_kinds_unnamed :
    let v : Value := .map [(.int 0, .int 1), (.str "term", .str "x"), (.str "a", .int 2)]
    ∃ e, Query.parse ⟨"q", []⟩ v = .error e ∧
      e.message = "'<' not supported between instances of 'str' and 'int'" ∧
      ∀ steps, ¬e.Names ⟨"q", steps⟩ := by
  intro v
  have hparse : Query.parse ⟨"q", []⟩ v = .error (.access (.notComparable "<" .str .int)) := by
    rw [Query.parse_map]
    rfl
  refine ⟨_, hparse, rfl, ?_⟩
  rintro steps ⟨before, behind, hmessage⟩
  -- the words of a failed comparison hold no letter of the root
  have hmem : 'q' ∈ (before ++ (Place.mk "q" steps).text ++ behind).toList := by
    simp [Place.text]
  rw [← hmessage] at hmem
  have hnot : 'q' ∉ "'<' not supported between instances of 'str' and 'int'".toList := by decide
  exact hnot hmem

end QueryTemplates
