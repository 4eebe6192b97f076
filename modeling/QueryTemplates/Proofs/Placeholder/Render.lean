import QueryTemplates.Placeholder.Fill
import QueryTemplates.Proofs.Outcome

/-!
# Rendering simple texts

What a placeholder becomes is put together from its value and its specification. A text without
braces has no placeholders: rendering it over any data leaves it as it is. A text that is one
placeholder, a name and nothing else, becomes the text that is found at the name.

About `SPEC_FULL.md` §11 (lines 202–203).
-/

namespace QueryTemplates

/-! ### The parts of a placeholder -/

/-- What a name stands for is found by steps from the data, the first of which is by a key. -/
theorem lookUp_eq_foldlM [Objects] (name : FieldName) (data : Value) :
    name.lookUp data = (.key name.first :: name.steps).foldlM Access.follow (.value data) := by
  rw [FieldName.lookUp, List.foldlM_cons, Access.follow, Found.item]
  cases data.item (.str name.first) <;> rfl

/-- What a placeholder shows: what its name finds, converted. -/
def Field.value [Objects] (data : Value) (field : Field) : Except FillError Reached := do
  let name ← (readFieldName field.name).mapError .name
  convert (← name.lookUp data) field.conversion

/-- The specification of a placeholder with the placeholders in it filled. -/
def Field.specification [Objects] (depth : Nat) (data : Value) (field : Field) :
    Except FillError (List Char) :=
  if field.nested then
    match depth with
    | 0 => .error .tooDeep
    | depth + 1 => String.toList <$> fillSegments depth data (segments field.spec)
  else .ok field.spec

/-- A placeholder becomes what it shows, laid out as its specification says. -/
theorem fillField_eq [Objects] (depth : Nat) (data : Value) (field : Field) :
    fillField depth data field = (do
      let found ← field.value data
      let cs ← field.specification depth data
      (found.format cs).mapError .format) := by
  rw [fillField, Field.value, bind_assoc]
  refine bind_congr fun name => ?_
  rw [bind_assoc]
  refine bind_congr fun found => bind_congr fun found => ?_
  unfold Field.specification
  by_cases hnested : field.nested = true
  · rw [if_pos hnested, if_pos hnested]
    cases depth <;> rfl
  · rw [if_neg hnested, if_neg hnested]
    rfl

/-! ### Texts without placeholders -/

/-- No brace occurs in the text. -/
def BraceFree (text : String) : Prop := '\x7b' ∉ text.toList ∧ '\x7d' ∉ text.toList

instance (text : String) : Decidable (BraceFree text) := inferInstanceAs (Decidable (_ ∧ _))

/-- A character that is no brace belongs to the literal text. -/
theorem readSegments_cons {c : Char} (hopen : c ≠ '\x7b') (hclose : c ≠ '\x7d')
    (literal cs : List Char) : readSegments literal (c :: cs) = readSegments (c :: literal) cs := by
  rw [readSegments] <;> intros <;> simp_all

theorem readSegments_of_no_brace {cs : List Char} (hopen : '\x7b' ∉ cs) (hclose : '\x7d' ∉ cs)
    (literal : List Char) : readSegments literal cs = [.literal (literal.reverse ++ cs)] := by
  induction cs generalizing literal with
  | nil => rw [readSegments, List.append_nil]
  | cons c cs ih =>
    simp only [List.mem_cons, not_or] at hopen hclose
    rw [readSegments_cons (Ne.symm hopen.1) (Ne.symm hclose.1), ih hopen.2 hclose.2,
      List.reverse_cons, List.append_assoc]
    rfl

theorem fill_of_braceFree [Objects] {text : String} (h : BraceFree text) (data : Value) :
    fill text data = .ok text := by
  rw [fill, segments, readSegments_of_no_brace h.1 h.2]
  simp [fillSegments, pure, Except.pure]

/-- A text without braces is what it becomes. -/
theorem render_of_braceFree [Objects] {text : String} (h : BraceFree text) (data : Value) :
    render (.str text) data = .ok text := by
  rw [render, fill_of_braceFree h]
  rfl

/-! ### Texts that are one placeholder -/

section

variable {cs behind : List Char} {field : Field}

/-- A placeholder that can be read ends the literal text in front of it. -/
theorem readSegments_field (h : readField cs = .ok (field, behind)) (literal : List Char) :
    readSegments literal ('\x7b' :: cs)
      = .literal literal.reverse :: .field field :: readSegments [] behind := by
  rw [readSegments]
  · split
    · next hcs =>
      rw [h] at hcs
      cases hcs
    · next hcs =>
      rw [h] at hcs
      cases hcs
      rfl
  · rintro rest rfl
    cases h
  · rintro rfl
    cases h

theorem segments_of_readField (h : readField cs = .ok (field, [])) :
    segments ('\x7b' :: cs) = [.literal [], .field field, .literal []] := by
  rw [segments, readSegments_field h, readSegments]
  rfl

/-- A placeholder without conversion and specification becomes the text of what its name finds. -/
theorem fillField_of_name [Objects] {name : FieldName} (hname : readFieldName field.name = .ok name)
    (hconversion : field.conversion = none) (hspec : field.spec = [])
    (hnested : field.nested = false) (depth : Nat) (data : Value) :
    fillField depth data field = (do
      let found ← name.lookUp data
      found.shownText.mapError .format) := by
  have hformat (found : Reached) : found.format [] = found.shownText := by
    cases found <;> rfl
  rw [fillField, hname, hconversion, hspec, hnested]
  show (name.lookUp data >>= fun found => (found.format []).mapError .format) = _
  simp only [hformat]

/-- A text that is one placeholder becomes the text that it names. -/
theorem render_of_readField [Objects] {text s : String} {name : FieldName} {data : Value}
    (htext : text.toList = '\x7b' :: cs) (hfield : readField cs = .ok (field, []))
    (hname : readFieldName field.name = .ok name) (hconversion : field.conversion = none)
    (hspec : field.spec = []) (hnested : field.nested = false)
    (hfound : name.lookUp data = .ok (.value (.str s))) : render (.str text) data = .ok s := by
  have hfill : fillField 1 data field = .ok s := by
    rw [fillField_of_name hname hconversion hspec hnested, hfound]
    rfl
  have hsegments : fillSegments 1 data [.literal [], .field field, .literal []] = .ok s := by
    simp [fillSegments, hfill, pure, Except.pure]
  rw [render, fill, htext, segments_of_readField hfield, hsegments]
  rfl

end

end QueryTemplates
