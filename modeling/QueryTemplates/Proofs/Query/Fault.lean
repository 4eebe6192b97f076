import QueryTemplates.Proofs.Query.Reading
import QueryTemplates.Proofs.Reading.Place
import QueryTemplates.Proofs.Value.Follow

/-!
# Faults in written queries

A refused value has a fault: at the end of some steps there is a part of another shape, a mapping
without a key, a mapping that names no kind or several, or one with keys that have no meaning there.
The refusal tells of that fault and names the place that the steps lead to. Main statement:
`blames_parse`. The step behind it is `faulty_parse`: a refusal tells of the node itself or is that
of one of its parts.

About `SPEC_FULL.md` §10.2 (lines 159–163).
-/

namespace QueryTemplates

/-- The value has the shape. -/
def Shape.Fits (v : Value) : Shape → Prop
  | .mapping => ∃ m, v.entries? = some m
  | .list => ∃ items, v.items? = some items
  | .text => ∃ s, v = .str s
  | .bool => ∃ b, v = .bool b
  | .number => ∃ n, v = .ofNumber n

/-- The refusal says that the value has not the wanted shape, and it has not. -/
def Misfit (place : Place) (wanted : Shape) (v : Value) (e : ReadError) : Prop :=
  e = .shape place wanted ∧ ¬wanted.Fits v

/-! ### What a reader refuses -/

section

variable (place : Place) (m : Mapping) (v : Value)

/-- What is no mapping is refused for it. -/
theorem refuses_expectMapping : FailsOnly (Misfit place .mapping v) (expectMapping place v) := by
  unfold expectMapping
  split
  · exact .ok _
  · next h =>
    refine .error ⟨rfl, ?_⟩
    rintro ⟨m, hm⟩
    exact h m (Value.entries?_eq_some_iff.mp hm)

theorem refuses_expectList : FailsOnly (Misfit place .list v) (expectList place v) := by
  unfold expectList
  split
  · exact .ok _
  · next h =>
    refine .error ⟨rfl, ?_⟩
    rintro ⟨items, hitems⟩
    exact h items (Value.items?_eq_some_iff.mp hitems)

/-- What is no text is refused for it. -/
theorem refuses_expectText : FailsOnly (Misfit place .text v) (expectText place v) := by
  unfold expectText
  split
  · exact .ok _
  · next h => exact .error ⟨rfl, fun ⟨s, hs⟩ => h s hs⟩

/-- What is no truth value is refused for it. -/
theorem refuses_expectBool : FailsOnly (Misfit place .bool v) (expectBool place v) := by
  unfold expectBool
  split
  · exact .ok _
  · next h => exact .error ⟨rfl, fun ⟨b, hb⟩ => h b hb⟩

/-- What is no number is refused for it. -/
theorem refuses_expectNumber : FailsOnly (Misfit place .number v) (expectNumber place v) := by
  unfold expectNumber
  cases h : v.number? with
  | some n => exact .ok _
  | none =>
    refine .error ⟨rfl, ?_⟩
    rintro ⟨n, hn⟩
    rw [Value.number?_eq_some_iff.mpr hn] at h
    cases h

/-- A key is missed only where it is absent. -/
theorem refuses_requireKey (name : String) :
    FailsOnly (fun e => e = .missing place ∧ Mapping.get? m (.str name) = none)
      (requireKey m name place) := by
  unfold requireKey
  split
  · exact .ok _
  · next h => exact .error ⟨rfl, h⟩

/-- A required key gives what stands there. -/
theorem requireKey_eq_ok_iff {place : Place} {m : Mapping} {name : String} {v : Value} :
    requireKey m name place = .ok v ↔ Mapping.get? m (.str name) = some v := by
  unfold requireKey
  split
  · next w h => rw [h, Except.ok.injEq, Option.some.injEq]
  · next h => rw [h]; exact iff_of_false nofun nofun

/-- Keys without a meaning are told in order if they can be listed; otherwise no place is named. -/
theorem refuses_checkKeys (owner : Option String) (allowed : List String) :
    FailsOnly (fun e =>
      (Listable (m.keys.filter (isUnknown allowed)) ∧
        ∃ keys, sortScalars (m.keys.filter (isUnknown allowed)) = .ok keys ∧ keys ≠ [] ∧
          e = .unknownKeys place owner keys) ∨
      (¬Listable (m.keys.filter (isUnknown allowed)) ∧ e.place? = none))
      (checkKeys place owner allowed m) := by
  rw [checkKeys]
  generalize m.keys.filter (isUnknown allowed) = unknown
  split
  · exact .ok _
  · next hsome =>
    cases hsorted : sortScalars unknown with
    | error cause =>
      refine .error (.inr ⟨fun hlistable => ?_, rfl⟩)
      obtain ⟨sorted, hok, -⟩ := listable_iff.mp hlistable
      rw [hsorted] at hok
      cases hok
    | ok sorted =>
      show FailsOnly _ (if _ then _ else _)
      split
      · next hlong =>
        refine .error (.inr ⟨fun hlistable => ?_, rfl⟩)
        obtain ⟨_, hok, hshort⟩ := listable_iff.mp hlistable
        rw [hsorted] at hok
        obtain rfl := Except.ok.inj hok
        rw [hlong] at hshort
        cases hshort
      · next hshort =>
        rw [Bool.not_eq_true] at hshort
        refine .error (.inl ⟨listable_iff.mpr ⟨sorted, hsorted, hshort⟩, sorted, rfl, ?_, rfl⟩)
        rintro rfl
        exact hsome (List.isEmpty_iff.mpr (sortScalars_perm hsorted).nil_eq.symm)

/-- Keys that cannot be listed are refused without a place. -/
theorem place?_eq_none_of_not_listable {owner : Option String} {allowed : List String}
    {e : ReadError} (h : checkKeys place owner allowed m = .error e)
    (hkeys : ¬Listable (m.keys.filter (isUnknown allowed))) : e.place? = none := by
  rcases refuses_checkKeys _ _ _ _ e h with ⟨hlistable, -⟩ | ⟨-, hunnamed⟩
  · exact absurd hlistable hkeys
  · exact hunnamed

end

namespace Query

/-! ### Faults -/

/-- The kinds that the keys of a mapping name. -/
def kindsOf (m : Mapping) : List QueryKind := m.keys.filterMap QueryKind.ofKey?

/-- A mapping has a kind exactly when one of its keys names one. -/
theorem soleKind_eq_ok_iff {place : Place} {m : Mapping} {kind : QueryKind} :
    soleKind place m = .ok kind ↔ kindsOf m = [kind] := by
  unfold soleKind kindsOf
  split
  · next found h => rw [h, Except.ok.injEq, List.cons.injEq, and_iff_left rfl]
  · next h => exact iff_of_false nofun (h kind)

/-- Without exactly one kind all of them are offered. -/
theorem refuses_soleKind (place : Place) (m : Mapping) :
    FailsOnly (fun e => e = .noSoleKey place (QueryKind.all.map QueryKind.name) ∧
      (kindsOf m).length ≠ 1) (soleKind place m) := by
  unfold soleKind kindsOf
  split
  · exact .ok _
  · next h =>
    refine .error ⟨rfl, fun hlength => ?_⟩
    obtain ⟨kind, hkind⟩ := List.length_eq_one_iff.mp hlength
    exact h kind hkind

/-- The keys that have a meaning in the mapping at the end of the steps; `owner` is the one whose
companions the others are. -/
inductive Allows (v : Value) : List Step → Option String → List String → Prop
  | node {steps : List Step} {w : Value} {m : Mapping} {kind : QueryKind}
    (hw : v.follow? steps = some w) (hm : w.entries? = some m) (hkind : kindsOf m = [kind]) :
    Allows v steps (some kind.name) (kind.name :: kind.companions)
  | range {steps : List Step} {w : Value} {m : Mapping} (hw : v.follow? steps = some w)
    (hm : w.entries? = some m) (hkind : kindsOf m = [.range]) :
    Allows v (steps ++ [.key "range"]) none ["start", "end", "include_left", "include_right"]

/-- The value has, at the end of the steps, the fault that a refusal tells of. The refusal names the
place where the steps lead to from `place`. -/
inductive Marks (v : Value) (place : Place) : List Step → ReadError → Prop
  /-- The part has another shape. -/
  | shape {steps : List Step} {w : Value} {wanted : Shape} (hw : v.follow? steps = some w)
    (hshape : ¬wanted.Fits w) : Marks v place steps (.shape (place.extend steps) wanted)
  /-- The last step is a key that the mapping before it does not have. -/
  | missing {steps : List Step} {w : Value} {m : Mapping} {name : String}
    (hw : v.follow? steps = some w) (hm : w.entries? = some m)
    (hname : Mapping.get? m (.str name) = none) :
    Marks v place (steps ++ [.key name]) (.missing (place.extend (steps ++ [.key name])))
  /-- The mapping names no kind or several. -/
  | noSoleKey {steps : List Step} {w : Value} {m : Mapping} (hw : v.follow? steps = some w)
    (hm : w.entries? = some m) (hkinds : (kindsOf m).length ≠ 1) :
    Marks v place steps
      (.noSoleKey (place.extend steps) (QueryKind.all.map QueryKind.name))
  /-- The mapping has keys without a meaning, which are told in order. -/
  | unknownKeys {steps : List Step} {w : Value} {m : Mapping} {owner : Option String}
    {allowed : List String} {keys : List Scalar} (hw : v.follow? steps = some w)
    (hm : w.entries? = some m) (hallowed : Allows v steps owner allowed)
    (hkeys : sortScalars (m.keys.filter (isUnknown allowed)) = .ok keys) (hsome : keys ≠ []) :
    Marks v place steps (.unknownKeys (place.extend steps) owner keys)

/-- The steps lead to a loop without end, and the refusal says so. -/
def EndlessIn (v : Value) (e : ReadError) : Prop :=
  e = .endless ∧ ∃ steps w, v.follow? steps = some w ∧ w.bare = .endless

/-- What a value is refused for. -/
inductive Blames (v : Value) (place : Place) (e : ReadError) : Prop
  | marked {steps : List Step} (h : Marks v place steps e)
  /-- A mapping has keys without a meaning that cannot be listed. -/
  | unlistable {steps : List Step} {w : Value} {m : Mapping} {owner : Option String}
    {allowed : List String} (hw : v.follow? steps = some w) (hm : w.entries? = some m)
    (hallowed : Allows v steps owner allowed)
    (hcheck : checkKeys (place.extend steps) owner allowed m = .error e)
    (hkeys : ¬Listable (m.keys.filter (isUnknown allowed)))
  | endless (h : EndlessIn v e)

variable {v w : Value} {place : Place} {m : Mapping} {steps front : List Step} {e : ReadError}

/-- A refusal that marks a fault names the place of it. -/
theorem Marks.place?_eq (h : Marks v place steps e) : e.place? = some (place.extend steps) := by
  cases h <;> rfl

/-- The named place is one that is reached from the given one. -/
theorem Blames.exists_steps (h : Blames v place e) {found : Place}
    (hfound : e.place? = some found) : ∃ steps, found = place.extend steps := by
  cases h with
  | @marked steps h =>
    rw [h.place?_eq] at hfound
    exact ⟨steps, (Option.some.inj hfound).symm⟩
  | unlistable _ _ _ hcheck hkeys =>
    rw [place?_eq_none_of_not_listable _ _ hcheck hkeys] at hfound
    cases hfound
  | endless h =>
    rw [h.1] at hfound
    cases hfound

/-! ### Faults of a part -/

section

variable {part : Value} (hpart : v.follow? front = some part)

include hpart

/-- The keys that a part allows are allowed there in the whole. -/
theorem Allows.lift {owner : Option String} {allowed : List String}
    (h : Allows part steps owner allowed) : Allows v (front ++ steps) owner allowed := by
  cases h with
  | node hw hm hkind =>
    exact .node (by rwa [Value.follow?_append_of_eq_some hpart]) hm hkind
  | range hw hm hkind =>
    rw [← List.append_assoc]
    exact .range (by rwa [Value.follow?_append_of_eq_some hpart]) hm hkind

/-- A fault of a part is one of the whole, behind the steps to the part. -/
theorem Marks.lift (h : Marks part (place.extend front) steps e) :
    Marks v place (front ++ steps) e := by
  cases h with
  | shape hw hshape =>
    rw [Place.extend_extend]
    exact .shape (by rwa [Value.follow?_append_of_eq_some hpart]) hshape
  | missing hw hm hname =>
    rw [Place.extend_extend, ← List.append_assoc]
    exact .missing (by rwa [Value.follow?_append_of_eq_some hpart]) hm hname
  | noSoleKey hw hm hkinds =>
    rw [Place.extend_extend]
    exact .noSoleKey (by rwa [Value.follow?_append_of_eq_some hpart]) hm hkinds
  | unknownKeys hw hm hallowed hkeys hsome =>
    rw [Place.extend_extend]
    exact .unknownKeys (by rwa [Value.follow?_append_of_eq_some hpart]) hm
      (hallowed.lift hpart) hkeys hsome

/-- A loop in a part is one in the whole. -/
theorem EndlessIn.lift (h : EndlessIn part e) : EndlessIn v e := by
  obtain ⟨he, steps, w, hw, hend⟩ := h
  exact ⟨he, front ++ steps, w, by rwa [Value.follow?_append_of_eq_some hpart], hend⟩

/-- Whatever a refusal blames in a part it blames in the whole. -/
theorem Blames.lift (h : Blames part (place.extend front) e) : Blames v place e := by
  cases h with
  | marked h => exact .marked (h.lift hpart)
  | unlistable hw hm hallowed hcheck hkeys =>
    rw [Place.extend_extend] at hcheck
    exact .unlistable (by rwa [Value.follow?_append_of_eq_some hpart]) hm (hallowed.lift hpart)
      hcheck hkeys
  | endless h => exact .endless (h.lift hpart)

end

/-! ### Readers of one part -/

section

variable (hw : v.follow? steps = some w)

include hw

/-- A value of another shape is blamed where it stands. -/
theorem blames_of_misfit {α : Type} {outcome : Except ReadError α} {wanted : Shape}
    (h : FailsOnly (Misfit (place.extend steps) wanted w) outcome) :
    FailsOnly (Blames v place) outcome := by
  intro e he
  obtain ⟨rfl, hshape⟩ := h e he
  exact .marked (.shape hw hshape)

theorem blames_expectMapping :
    FailsOnly (Blames v place) (expectMapping (place.extend steps) w) :=
  blames_of_misfit hw (refuses_expectMapping _ w)

theorem blames_expectList : FailsOnly (Blames v place) (expectList (place.extend steps) w) :=
  blames_of_misfit hw (refuses_expectList _ w)

theorem blames_expectText : FailsOnly (Blames v place) (expectText (place.extend steps) w) :=
  blames_of_misfit hw (refuses_expectText _ w)

theorem blames_expectBool : FailsOnly (Blames v place) (expectBool (place.extend steps) w) :=
  blames_of_misfit hw (refuses_expectBool _ w)

theorem blames_expectNumber :
    FailsOnly (Blames v place) (expectNumber (place.extend steps) w) :=
  blames_of_misfit hw (refuses_expectNumber _ w)

variable (hm : w.entries? = some m) (name : String)

include hm

/-- One step further is the value at a key. -/
theorem follow?_append_key {part : Value} (hpart : Mapping.get? m (.str name) = some part) :
    v.follow? (steps ++ [.key name]) = some part := by
  rw [Value.follow?_append_of_eq_some hw, Value.follow?_key hm hpart]

/-- A missing key is blamed on the mapping that lacks it. -/
theorem blames_requireKey :
    FailsOnly (Blames v place) (requireKey m name (place.extend (steps ++ [.key name]))) := by
  intro e h
  obtain ⟨rfl, hname⟩ := refuses_requireKey _ _ _ e h
  exact .marked (.missing hw hm hname)

/-- Unknown keys are blamed on the mapping that has them. -/
theorem blames_checkKeys {owner : Option String} {allowed : List String}
    (hallowed : Allows v steps owner allowed) :
    FailsOnly (Blames v place) (checkKeys (place.extend steps) owner allowed m) := by
  intro e h
  rcases refuses_checkKeys _ _ _ _ e h with ⟨-, keys, hkeys, hsome, rfl⟩ | ⟨hkeys, -⟩
  · exact .marked (.unknownKeys hw hm hallowed hkeys hsome)
  · exact .unlistable hw hm hallowed h hkeys

theorem blames_readText :
    FailsOnly (Blames v place) (readText (place.extend steps) m name) := by
  rw [readText, Place.key_eq_extend, Place.extend_extend]
  refine (blames_requireKey hw hm name).bind_of_ok fun part hpart => ?_
  exact blames_expectText (follow?_append_key hw hm name (requireKey_eq_ok_iff.mp hpart))

theorem blames_readNumber :
    FailsOnly (Blames v place) (readNumber (place.extend steps) m name) := by
  rw [readNumber, Place.key_eq_extend, Place.extend_extend]
  refine (blames_requireKey hw hm name).bind_of_ok fun part hpart => ?_
  exact blames_expectNumber (follow?_append_key hw hm name (requireKey_eq_ok_iff.mp hpart))

theorem blames_readFlag :
    FailsOnly (Blames v place) (readFlag (place.extend steps) m name) := by
  rw [readFlag, Place.key_eq_extend, Place.extend_extend]
  cases hpart : Mapping.get? m (.str name) with
  | none => exact .ok _
  | some part => exact blames_expectBool (follow?_append_key hw hm name hpart)

theorem blames_readSimilarity :
    FailsOnly (Blames v place) (readSimilarity (place.extend steps) m) := by
  unfold readSimilarity
  rw [Place.key_eq_extend, Place.extend_extend]
  split
  · exact .ok _
  · exact .ok _
  · next part _ hpart =>
    exact (blames_expectNumber (follow?_append_key hw hm _ hpart)).map _

end

/-! ### A node and its parts -/

section

variable {body : Value} (hm : v.entries? = some m)

include hm

theorem blames_readRange (hkind : kindsOf m = [.range])
    (hbody : Mapping.get? m (.str "range") = some body) :
    FailsOnly (Blames v place) (readRange (place.extend [.key "range"]) body) := by
  have hw := Value.follow?_key hm hbody
  refine (blames_expectMapping hw).bind_of_ok fun entries hentries => ?_
  have hinner := Value.entries?_eq_some_iff.mpr (expectMapping_eq_ok_iff.mp hentries)
  refine (blames_checkKeys hw hinner (.range (Value.follow?_nil v) hm hkind)).bind fun _ => ?_
  refine (blames_readText hw hinner _).bind fun start => ?_
  refine (blames_readText hw hinner _).bind fun stop => ?_
  refine (blames_readFlag hw hinner _).bind fun includeStart => ?_
  exact (blames_readFlag hw hinner _).bind fun includeStop => .ok _

/-- Words in proximity are blamed below their key. -/
theorem blames_readProximity (hbody : Mapping.get? m (.str "proximity") = some body) :
    FailsOnly (Blames v place) (readProximity (place.extend [.key "proximity"]) body) := by
  have hw := Value.follow?_key hm hbody
  refine (blames_expectMapping hw).bind_of_ok fun entries hentries => ?_
  have hinner := Value.entries?_eq_some_iff.mpr (expectMapping_eq_ok_iff.mp hentries)
  refine (blames_readText hw hinner _).bind fun first => ?_
  refine (blames_readText hw hinner _).bind fun second => ?_
  exact (blames_readNumber hw hinner _).bind fun distance => .ok _

end

/-- The steps lead from a value to a part of it that is read as a query of its own. -/
inductive PartAt (v : Value) : List Step → Value → Prop
  | query {m : Mapping} {part : Value} (hm : v.entries? = some m) (hkind : kindsOf m = [.field])
    (hpart : Mapping.get? m (.str "query") = some part) : PartAt v [.key "query"] part
  | body {m : Mapping} {kind : QueryKind} {part : Value} (hm : v.entries? = some m)
    (hkind : kindsOf m = [kind]) (hwraps : kind = .fuzzy ∨ kind = .boost ∨ kind = .required)
    (hpart : Mapping.get? m (.str kind.name) = some part) : PartAt v [.key kind.name] part
  | child {m : Mapping} {kind : QueryKind} {body part : Value} {items : List Value} {number : Nat}
    (hm : v.entries? = some m) (hkind : kindsOf m = [kind])
    (hjoins : kind = .group ∨ ∃ op, kind = .boolean op)
    (hbody : Mapping.get? m (.str kind.name) = some body) (hitems : body.items? = some items)
    (hpart : items[number]? = some part) : PartAt v [.key kind.name, .index number] part

/-- Steps to a part lead to it. -/
theorem PartAt.follow? {part : Value} (h : PartAt v front part) : v.follow? front = some part := by
  cases h with
  | query hm _ hpart => exact Value.follow?_key hm hpart
  | body hm _ _ hpart => exact Value.follow?_key hm hpart
  | child hm _ _ hbody hitems hpart =>
    exact (Value.follow?_append_of_eq_some (Value.follow?_key hm hbody) _).trans
      (Value.follow?_index hitems hpart)

theorem PartAt.sizeOf_lt {part : Value} (h : PartAt v front part) : sizeOf part < sizeOf v := by
  cases h with
  | query hm _ hpart => exact Value.sizeOf_lt_of_get? hm hpart
  | body hm _ _ hpart => exact Value.sizeOf_lt_of_get? hm hpart
  | child hm _ _ hbody hitems hpart =>
    have hinner := Value.sizeOf_lt_of_get? hm hbody
    have hitem := Value.sizeOf_lt_of_mem hitems (List.mem_of_getElem? hpart)
    omega

/-- The refusal tells of the value itself, or it is that of one of its parts. -/
def Faulty (v : Value) (place : Place) (e : ReadError) : Prop :=
  Blames v place e ∨ ∃ front part, PartAt v front part ∧ parse (place.extend front) part = .error e

/-- What is blamed on the value itself is a fault of it. -/
theorem faulty_of_blames {α : Type} {outcome : Except ReadError α}
    (h : FailsOnly (Blames v place) outcome) : FailsOnly (Faulty v place) outcome :=
  h.mono fun _ => .inl

/-- Items are refused as the first one that is refused. -/
theorem parseItems_eq_error {index : Nat} {items : List Value}
    (h : parseItems place index items = .error e) :
    ∃ number item, items[number]? = some item ∧
      parse (place.index (index + number)) item = .error e := by
  induction items generalizing index with
  | nil =>
    rw [parseItems_nil] at h
    cases h
  | cons item rest ih =>
    rw [parseItems_cons] at h
    rcases bind_eq_error_iff.mp h with h | ⟨query, -, h⟩
    · exact ⟨0, item, rfl, h⟩
    · rcases bind_eq_error_iff.mp h with h | ⟨queries, -, h⟩
      · obtain ⟨number, later, hlater, h⟩ := ih h
        refine ⟨number + 1, later, hlater, ?_⟩
        rwa [Nat.add_assoc, Nat.add_comm 1] at h
      · cases h

section

variable {kind : QueryKind} {body : Value} (hm : v.entries? = some m) (hkind : kindsOf m = [kind])
  (hbody : Mapping.get? m (.str kind.name) = some body)

include hm hkind hbody

/-- A fault among children is a fault of theirs or of their list. -/
theorem faulty_parseChildren (hjoins : kind = .group ∨ ∃ op, kind = .boolean op) :
    FailsOnly (Faulty v place) (parseChildren (place.key kind.name) body) := by
  have hw := Value.follow?_key hm hbody
  rcases parseChildren_cases body with ⟨hend, hparse⟩ | hparse
  · rw [hparse]
    exact .error (.inl (.endless ⟨rfl, _, body, hw, hend⟩))
  · rw [hparse]
    refine (faulty_of_blames (blames_expectList hw)).bind_of_ok fun items hitems => ?_
    have hlist := Value.items?_eq_some_iff.mpr (expectList_eq_ok_iff.mp hitems)
    intro e h
    obtain ⟨number, item, hitem, h⟩ := parseItems_eq_error h
    rw [Nat.zero_add, Place.index_eq_extend, Place.key_eq_extend, Place.extend_extend] at h
    exact .inr ⟨_, item, .child hm hkind hjoins hbody hlist hitem, h⟩

/-- A wrapped body is a part, and whatever is refused in it is refused there. -/
theorem faulty_parse_body (hwraps : kind = .fuzzy ∨ kind = .boost ∨ kind = .required) :
    FailsOnly (Faulty v place) (parse (place.key kind.name) body) :=
  fun _ h => .inr ⟨_, body, .body hm hkind hwraps hbody, h⟩

/-- A fault in a body is a fault of the mapping around it. -/
theorem faulty_readBody : FailsOnly (Faulty v place) (readBody place kind m body) := by
  have hv := Value.follow?_nil v
  have hw := Value.follow?_key hm hbody
  have htext : FailsOnly (Faulty v place) (expectText (place.key kind.name) body) :=
    faulty_of_blames (blames_expectText hw)
  cases kind with
  | term => exact htext.bind fun text => .ok _
  | phrase => exact htext.bind fun text => .ok _
  | raw => exact htext.bind fun text => .ok _
  | field =>
    refine htext.bind fun name => ?_
    refine (faulty_of_blames (blames_requireKey hv hm "query")).bind_of_ok fun part hpart => ?_
    have hquery := PartAt.query hm hkind (requireKey_eq_ok_iff.mp hpart)
    exact .bind (fun e h => .inr ⟨_, part, hquery, h⟩) fun query => .ok _
  | boolean op => exact (faulty_parseChildren hm hkind hbody (.inr ⟨op, rfl⟩)).bind fun _ => .ok _
  | group => exact (faulty_parseChildren hm hkind hbody (.inl rfl)).bind fun _ => .ok _
  | range => exact faulty_of_blames (blames_readRange hm hkind hbody)
  | fuzzy =>
    refine (faulty_of_blames (blames_readSimilarity hv hm)).bind fun similarity => ?_
    exact (faulty_parse_body hm hkind hbody (.inl rfl)).bind fun _ => .ok _
  | proximity => exact faulty_of_blames (blames_readProximity hm hbody)
  | boost =>
    refine (faulty_parse_body hm hkind hbody (.inr (.inl rfl))).bind fun query => ?_
    exact (faulty_of_blames (blames_readNumber hv hm "factor")).bind fun _ => .ok _
  | required => exact (faulty_parse_body hm hkind hbody (.inr (.inr rfl))).bind fun _ => .ok _

end

/-- A mapping that is no query has a fault of its own or in a part. -/
theorem faulty_parse_map (hm : v.entries? = some m) :
    FailsOnly (Faulty v place) (parse place (.map m)) := by
  have hv := Value.follow?_nil v
  rw [parse_map]
  refine FailsOnly.bind_of_ok (fun e h => ?_) fun kind hkind => ?_
  · obtain ⟨rfl, hkinds⟩ := refuses_soleKind _ _ e h
    exact .inl (.marked (.noSoleKey hv hm hkinds))
  · rw [soleKind_eq_ok_iff] at hkind
    have hallowed : Allows v [] _ _ := .node hv hm hkind
    refine (faulty_of_blames (blames_checkKeys hv hm hallowed)).bind fun _ => ?_
    refine (faulty_of_blames (blames_requireKey hv hm kind.name)).bind_of_ok fun body hbody => ?_
    exact faulty_readBody hm hkind (requireKey_eq_ok_iff.mp hbody)

/-- A refusal tells of the value itself, or it is that of one of its parts. -/
theorem faulty_parse (place : Place) (v : Value) : FailsOnly (Faulty v place) (parse place v) := by
  have hv := Value.follow?_nil v
  rcases parse_cases v with ⟨text, hparse⟩ | ⟨hend, hparse⟩ | hparse
  · rw [hparse]
    exact .ok _
  · rw [hparse]
    exact .error (.inl (.endless ⟨rfl, [], v, hv, hend⟩))
  · rw [hparse]
    refine (faulty_of_blames (blames_expectMapping hv)).bind_of_ok fun m hm => ?_
    exact faulty_parse_map (Value.entries?_eq_some_iff.mpr (expectMapping_eq_ok_iff.mp hm))

/-- A value is refused for a fault that it has, under the place where the fault is. -/
theorem blames_parse (place : Place) (v : Value) : FailsOnly (Blames v place) (parse place v) := by
  intro e h
  rcases faulty_parse place v e h with h | ⟨front, part, hpart, h⟩
  · exact h
  · have hsize := hpart.sizeOf_lt
    exact (blames_parse (place.extend front) part e h).lift hpart.follow?
termination_by sizeOf v

end Query

end QueryTemplates
