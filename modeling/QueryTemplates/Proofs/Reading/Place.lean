import QueryTemplates.Proofs.Outcome
import QueryTemplates.Reading.Shape

/-!
# Places in refusals

A refusal names the place that it is about, unless it comes from keys that cannot be shown or from a
loop. Readers use a place for nothing but its text in a refusal: under two places of one text a
value is refused in the same words.

About `SPEC_FULL.md` §10.2 (lines 159–163).
-/

namespace QueryTemplates

namespace Place

/-- The place that the steps lead to from a place, one after the other. -/
def extend (place : Place) (steps : List Step) : Place := steps.foldl push place

/-- Steps in two parts lead where all of them lead. -/
theorem extend_extend (place : Place) (front steps : List Step) :
    (place.extend front).extend steps = place.extend (front ++ steps) :=
  List.foldl_append.symm

theorem key_eq_extend (place : Place) (name : String) :
    place.key name = place.extend [.key name] := rfl

theorem index_eq_extend (place : Place) (number : Nat) :
    place.index number = place.extend [.index number] := rfl

/-- The steps to a place are put behind those that lead there already. -/
theorem extend_eq (place : Place) (steps : List Step) :
    place.extend steps = ⟨place.root, place.steps ++ steps⟩ := by
  induction steps generalizing place with
  | nil => rw [List.append_nil]; rfl
  | cons step rest ih =>
    show (place.push step).extend rest = _
    rw [ih, push, List.append_assoc]
    rfl

/-- Different steps lead to different places. -/
theorem extend_inj {place : Place} {front steps : List Step} :
    place.extend front = place.extend steps ↔ front = steps := by
  simp [extend_eq]

/-- The text of a place is that of its root with the steps behind it. -/
theorem text_extend (place : Place) (steps : List Step) :
    (place.extend steps).text = place.text ++ String.join (steps.map Step.text) := by
  simp [extend_eq, text, String.append_assoc]

end Place

namespace ReadError

/-- The place that a refusal names. -/
def place? : ReadError → Option Place
  | .shape place _ | .missing place | .noSoleKey place _ | .unknownKeys place _ _ => some place
  | .access _ | .longInteger | .endless => none

/-- The text of the place stands in the words of the refusal. -/
def Names (e : ReadError) (place : Place) : Prop :=
  ∃ before behind, e.message = before ++ place.text ++ behind

/-- The refusal with another place in it, if it names one. -/
def moved (e : ReadError) (place : Place) : ReadError :=
  match e with
  | .shape _ wanted => .shape place wanted
  | .missing _ => .missing place
  | .noSoleKey _ choices => .noSoleKey place choices
  | .unknownKeys _ owner keys => .unknownKeys place owner keys
  | .access cause => .access cause
  | .longInteger => .longInteger
  | .endless => .endless

/-- A refusal is about the place that it names. -/
theorem moved_of_place? {e : ReadError} {place : Place} (h : e.place? = some place) :
    e.moved place = e := by
  cases e with
  | access cause => cases h
  | longInteger => cases h
  | endless => cases h
  | _ =>
    obtain rfl := Option.some.inj h
    rfl

/-- The words around the text of the place do not depend on the place. -/
theorem message_moved {e : ReadError} {found : Place} (h : e.place? = some found) :
    ∃ before behind, ∀ place, (e.moved place).message = before ++ place.text ++ behind := by
  cases e with
  | shape _ wanted =>
    refine ⟨"", " must be " ++ wanted.described, fun place => ?_⟩
    rw [String.empty_append, ← String.append_assoc]
    rfl
  | missing _ =>
    refine ⟨"Missing required config: ", "", fun place => ?_⟩
    rw [String.append_empty]
    rfl
  | noSoleKey _ choices =>
    refine ⟨"", " must have exactly one of " ++ listLiteral choices, fun place => ?_⟩
    rw [String.empty_append, ← String.append_assoc]
    rfl
  | unknownKeys _ owner keys =>
    refine ⟨"", " has unknown keys" ++ (owner.elim "" (" for " ++ ·) ++
      (": " ++ (Value.list (keys.map .scalar)).literal)), fun place => ?_⟩
    simp only [String.empty_append, ← String.append_assoc]
    cases owner <;> rfl
  | access cause => cases h
  | longInteger => cases h
  | endless => cases h

/-- The text of the place that a refusal is about stands in its words. -/
theorem names_of_place? {e : ReadError} {place : Place} (h : e.place? = some place) :
    e.Names place := by
  obtain ⟨before, behind, hmessage⟩ := message_moved h
  exact ⟨before, behind, by rw [← hmessage, moved_of_place? h]⟩

/-- The category and the words of a refusal. -/
def told (e : ReadError) : Category × String := (e.category, e.message)

theorem category_moved (e : ReadError) (place : Place) : (e.moved place).category = e.category := by
  cases e <;> rfl

/-- Of a place only its text comes into the words. -/
theorem told_moved_congr {place place' : Place} (h : place.text = place'.text) (e : ReadError) :
    (e.moved place).told = (e.moved place').told := by
  cases hfound : e.place? with
  | none =>
    cases e <;> first | rfl | cases hfound
  | some found =>
    obtain ⟨before, behind, hmessage⟩ := message_moved hfound
    rw [told, told, hmessage, hmessage, category_moved, category_moved, h]

end ReadError

/-- Both succeed with the same result, or both are refused in the same words. -/
def ToldAlike {α : Type} (x y : Except ReadError α) : Prop :=
  x.mapError ReadError.told = y.mapError ReadError.told

namespace ToldAlike

variable {α β : Type} {x y : Except ReadError α}

/-- An outcome is told as it is. -/
theorem refl (x : Except ReadError α) : ToldAlike x x := rfl

/-- Errors in the same words are told alike. -/
theorem error {e e' : ReadError} (h : e.told = e'.told) :
    ToldAlike (.error e : Except ReadError α) (.error e') :=
  congrArg Except.error h

/-- What follows outcomes that are told alike is told alike. -/
theorem bind {next next' : α → Except ReadError β} (hfirst : ToldAlike x y)
    (hnext : ∀ a, ToldAlike (next a) (next' a)) : ToldAlike (x >>= next) (y >>= next') := by
  cases x with
  | error e =>
    obtain ⟨e', rfl, he⟩ := mapError_eq_error_iff.mp hfirst.symm
    exact error he.symm
  | ok a =>
    obtain rfl := mapError_eq_ok_iff.mp hfirst.symm
    exact hnext a

/-- So is what is made of them. -/
theorem map (h : ToldAlike x y) (f : α → β) : ToldAlike (f <$> x) (f <$> y) := by
  rw [map_eq_pure_bind, map_eq_pure_bind]
  exact h.bind fun a => refl _

/-- If one is refused, the other is refused in the same words. -/
theorem exists_error (h : ToldAlike x y) {e : ReadError} (hx : x = .error e) :
    ∃ e', y = .error e' ∧ e'.told = e.told := by
  rw [hx] at h
  exact mapError_eq_error_iff.mp h.symm

end ToldAlike

section

variable {place place' : Place} (h : place.text = place'.text)

include h

/-- Steps from places of one text lead to places of one text. -/
theorem Place.text_extend_congr (steps : List Step) :
    (place.extend steps).text = (place'.extend steps).text := by
  rw [text_extend, text_extend, h]

/-- A mapping is expected in the same words. -/
theorem toldAlike_expectMapping (v : Value) :
    ToldAlike (expectMapping place v) (expectMapping place' v) := by
  unfold expectMapping
  split
  · exact .refl _
  · exact .error (ReadError.told_moved_congr h (.shape place _))

theorem toldAlike_expectText (v : Value) :
    ToldAlike (expectText place v) (expectText place' v) := by
  unfold expectText
  split
  · exact .refl _
  · exact .error (ReadError.told_moved_congr h (.shape place _))

theorem toldAlike_expectBool (v : Value) :
    ToldAlike (expectBool place v) (expectBool place' v) := by
  unfold expectBool
  split
  · exact .refl _
  · exact .error (ReadError.told_moved_congr h (.shape place _))

theorem toldAlike_expectNumber (v : Value) :
    ToldAlike (expectNumber place v) (expectNumber place' v) := by
  unfold expectNumber
  split
  · exact .refl _
  · exact .error (ReadError.told_moved_congr h (.shape place _))

/-- A key is missed in the same words. -/
theorem toldAlike_requireKey (entries : Mapping) (name : String) :
    ToldAlike (requireKey entries name place) (requireKey entries name place') := by
  unfold requireKey
  split
  · exact .refl _
  · exact .error (ReadError.told_moved_congr h (.missing place))

/-- Unknown keys are refused in the same words. -/
theorem toldAlike_checkKeys (owner : Option String) (allowed : List String) (entries : Mapping) :
    ToldAlike (checkKeys place owner allowed entries) (checkKeys place' owner allowed entries) := by
  rw [checkKeys, checkKeys]
  split
  · exact .refl _
  · refine .bind (.refl _) fun keys => ?_
    split
    · exact .refl _
    · exact .error (ReadError.told_moved_congr h (.unknownKeys place _ _))

end

end QueryTemplates
