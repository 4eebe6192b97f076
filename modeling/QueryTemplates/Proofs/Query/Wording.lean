import QueryTemplates.Proofs.Query.Reading
import QueryTemplates.Proofs.Reading.Place
import QueryTemplates.Proofs.Value.Follow

/-!
# The words of a refusal

Of the place that a value is read under, nothing but the text comes into a refusal. So under two
places of one text a value is read alike, and refused in the same words. Main statement:
`toldByText`.

About `SPEC_FULL.md` §10.2 (lines 159–163).
-/

namespace QueryTemplates

namespace Query

variable {place place' : Place} {m : Mapping} {kind : QueryKind}

/-! ### Readers of one part -/

section

variable (h : place.text = place'.text)

include h

/-- A mapping without one kind is told of in the same words. -/
theorem toldAlike_soleKind (m : Mapping) : ToldAlike (soleKind place m) (soleKind place' m) := by
  unfold soleKind
  split
  · exact .refl _
  · exact .error (ReadError.told_moved_congr h (.noSoleKey place _))

/-- A text at a key is refused in the same words. -/
theorem toldAlike_readText (m : Mapping) (name : String) :
    ToldAlike (readText place m name) (readText place' m name) := by
  have hkey := Place.text_extend_congr h [.key name]
  exact (toldAlike_requireKey hkey m name).bind fun v => toldAlike_expectText hkey v

/-- A number at a key is refused in the same words. -/
theorem toldAlike_readNumber (m : Mapping) (name : String) :
    ToldAlike (readNumber place m name) (readNumber place' m name) := by
  have hkey := Place.text_extend_congr h [.key name]
  exact (toldAlike_requireKey hkey m name).bind fun v => toldAlike_expectNumber hkey v

/-- A truth value at a key is refused in the same words. -/
theorem toldAlike_readFlag (m : Mapping) (name : String) :
    ToldAlike (readFlag place m name) (readFlag place' m name) := by
  unfold readFlag
  split
  · exact toldAlike_expectBool (Place.text_extend_congr h [.key name]) _
  · exact .refl _

/-- A similarity is refused in the same words. -/
theorem toldAlike_readSimilarity (m : Mapping) :
    ToldAlike (readSimilarity place m) (readSimilarity place' m) := by
  unfold readSimilarity
  split
  · exact .refl _
  · exact .refl _
  · exact (toldAlike_expectNumber (Place.text_extend_congr h [.key "similarity"]) _).map _

theorem toldAlike_readRange (v : Value) : ToldAlike (readRange place v) (readRange place' v) :=
  (toldAlike_expectMapping h v).bind fun m => (toldAlike_checkKeys h _ _ m).bind fun _ =>
    (toldAlike_readText h m _).bind fun _ => (toldAlike_readText h m _).bind fun _ =>
    (toldAlike_readFlag h m _).bind fun _ => (toldAlike_readFlag h m _).bind fun _ => .refl _

/-- Words in proximity are refused in the same words. -/
theorem toldAlike_readProximity (v : Value) :
    ToldAlike (readProximity place v) (readProximity place' v) :=
  (toldAlike_expectMapping h v).bind fun m => (toldAlike_readText h m _).bind fun _ =>
    (toldAlike_readText h m _).bind fun _ => (toldAlike_readNumber h m _).bind fun _ => .refl _

end

/-! ### Queries -/

/-- A value is refused in the same words under every place of one text. -/
def ToldByText (v : Value) : Prop :=
  ∀ place place' : Place, place.text = place'.text → ToldAlike (parse place v) (parse place' v)

/-- Items are refused in the same words if each of them is. -/
theorem toldAlike_parseItems {items : List Value} (hitems : ∀ item ∈ items, ToldByText item)
    (h : place.text = place'.text) (index : Nat) :
    ToldAlike (parseItems place index items) (parseItems place' index items) := by
  induction items generalizing index with
  | nil =>
    rw [parseItems_nil, parseItems_nil]
    exact .refl _
  | cons item items ih =>
    obtain ⟨hitem, hitems⟩ := List.forall_mem_cons.mp hitems
    rw [parseItems_cons, parseItems_cons]
    refine (hitem _ _ (Place.text_extend_congr h [.index index])).bind fun query => ?_
    exact (ih hitems _).bind fun queries => .refl _

theorem toldAlike_parseChildren {body : Value}
    (hitems : ∀ items, body.items? = some items → ∀ item ∈ items, ToldByText item)
    (h : place.text = place'.text) :
    ToldAlike (parseChildren place body) (parseChildren place' body) := by
  rcases parseChildren_cases body with ⟨-, hparse⟩ | hparse
  · rw [hparse, hparse]
    exact .refl _
  · rw [hparse, hparse, expectList, expectList]
    split
    · next items hlist =>
      exact toldAlike_parseItems (hitems items (Value.items?_eq_some_iff.mpr hlist)) h 0
    · exact .error (ReadError.told_moved_congr h (.shape place _))

theorem toldAlike_readBody {body : Value} (hbody : ToldByText body)
    (hitems : ∀ items, body.items? = some items → ∀ item ∈ items, ToldByText item)
    (hpart : ∀ part, Mapping.get? m (.str "query") = some part → ToldByText part)
    (h : place.text = place'.text) :
    ToldAlike (readBody place kind m body) (readBody place' kind m body) := by
  have hkey := Place.text_extend_congr h [.key kind.name]
  have htext := toldAlike_expectText hkey body
  have hchildren := toldAlike_parseChildren hitems hkey
  cases kind with
  | term => exact htext.bind fun _ => .refl _
  | phrase => exact htext.bind fun _ => .refl _
  | raw => exact htext.bind fun _ => .refl _
  | field =>
    have hquery := Place.text_extend_congr h [.key "query"]
    refine htext.bind fun name => ?_
    rw [requireKey, requireKey]
    split
    · next part hfound => exact (hpart part hfound _ _ hquery).bind fun _ => .refl _
    · exact .error (ReadError.told_moved_congr hquery (.missing (place.key "query")))
  | boolean op => exact hchildren.bind fun _ => .refl _
  | group => exact hchildren.bind fun _ => .refl _
  | range => exact toldAlike_readRange hkey body
  | fuzzy =>
    exact (toldAlike_readSimilarity h m).bind fun _ => (hbody _ _ hkey).bind fun _ => .refl _
  | proximity => exact toldAlike_readProximity hkey body
  | boost =>
    exact (hbody _ _ hkey).bind fun _ => (toldAlike_readNumber h m _).bind fun _ => .refl _
  | required => exact (hbody _ _ hkey).bind fun _ => .refl _

/-- Whatever is read, only the text of its place comes into the words. -/
theorem toldByText (v : Value) : ToldByText v := by
  intro place place' h
  rcases parse_cases v with ⟨text, hparse⟩ | ⟨-, hparse⟩ | hparse
  · rw [hparse, hparse]
    exact .refl _
  · rw [hparse, hparse]
    exact .refl _
  · rw [hparse, hparse, expectMapping, expectMapping]
    split
    · next m hbare =>
      have hm := Value.entries?_eq_some_iff.mpr hbare
      rw [ok_bind, ok_bind, parse_map, parse_map]
      refine (toldAlike_soleKind h m).bind fun kind => ?_
      refine (toldAlike_checkKeys h _ _ m).bind fun _ => ?_
      rw [requireKey, requireKey]
      split
      · next body hbody =>
        -- a body, its items and its companion are smaller than the mapping that holds them
        have hsize := Value.sizeOf_lt_of_get? hm hbody
        refine toldAlike_readBody (toldByText body) (fun items hitems item hitem => ?_)
          (fun part hpart => ?_) h
        · have hsize' := Value.sizeOf_lt_of_mem hitems hitem
          exact toldByText item
        · have hsize' := Value.sizeOf_lt_of_get? hm hpart
          exact toldByText part
      · have hkey := Place.text_extend_congr h [.key kind.name]
        exact .error (ReadError.told_moved_congr hkey (.missing (place.key kind.name)))
    · exact .error (ReadError.told_moved_congr h (.shape place _))
termination_by sizeOf v

end Query

end QueryTemplates
