import QueryTemplates.Proofs.Fragment.Phrase

/-!
# Escaped texts

Escaped text is made of two sorts of pieces: a character without a meaning in the query syntax, and
a backslash with a character that has one. Escaping writes exactly such texts. Nothing is lost on
the way: reading from left to right, where a backslash is dropped and the character behind it is
kept, gives back what was escaped, and escaping that again gives back the escaped text.

About `SPEC_FULL.md` §6 (lines 125–127).
-/

namespace QueryTemplates

/-- The text without the backslashes that take a character along. -/
def unescape (s : String) : String := String.ofList (unescapeChars s.toList)

@[simp] theorem toList_unescape (s : String) : (unescape s).toList = unescapeChars s.toList := by
  simp [unescape]

/-- The characters are pieces of escaped text, one behind the other. -/
inductive Escaped : List Char → Prop
  | nil : Escaped []
  /-- A character without a meaning stands for itself. -/
  | plain {c : Char} {cs : List Char} (hc : isReserved c = false) (hrest : Escaped cs) :
    Escaped (c :: cs)
  /-- A character with a meaning stands behind a backslash. -/
  | reserved {c : Char} {cs : List Char} (hc : isReserved c = true) (hrest : Escaped cs) :
    Escaped ('\\' :: c :: cs)

/-- What escaping gives is escaped. -/
theorem escaped_escapeChars (cs : List Char) : Escaped (escapeChars cs) := by
  induction cs with
  | nil => exact .nil
  | cons c cs ih =>
    rw [escapeChars_cons]
    cases hc : isReserved c with
    | false =>
      rw [escapeChar_of_not_reserved (Bool.eq_false_iff.mp hc)]
      exact .plain hc ih
    | true =>
      rw [escapeChar_of_reserved hc]
      exact .reserved hc ih

/-- Escaping puts back the backslashes that reading drops. -/
theorem escapeChars_unescapeChars {cs : List Char} (h : Escaped cs) :
    escapeChars (unescapeChars cs) = cs := by
  induction h with
  | nil => rfl
  | plain hc _ ih =>
    have hplain := Bool.eq_false_iff.mp hc
    have hslash := fun heq => hplain (isReserved_of_escapes (.inl heq))
    rw [unescapeChars_cons hslash, escapeChars_cons, escapeChar_of_not_reserved hplain, ih]
    rfl
  | reserved hc _ ih =>
    rw [unescapeChars, escapeChars_cons, escapeChar_of_reserved hc, ih]
    rfl

/-- Escaped text is what escaping gives for what is read from it. -/
theorem escaped_iff_escapeChars_unescapeChars {cs : List Char} :
    Escaped cs ↔ escapeChars (unescapeChars cs) = cs :=
  ⟨escapeChars_unescapeChars, fun h => h ▸ escaped_escapeChars (unescapeChars cs)⟩

instance (cs : List Char) : Decidable (Escaped cs) :=
  decidable_of_iff _ escaped_iff_escapeChars_unescapeChars.symm

/-- Escaping can be undone, goes character by character, and gives exactly the texts that are made
of escaped pieces, which are those that escaping gives again once it was undone. -/
theorem escape_undone :
    (∀ s, unescape (escape s) = s) ∧ (∀ s t, escape (s ++ t) = escape s ++ escape t) ∧
      ∀ u : String, ((∃ s, u = escape s) ↔ Escaped u.toList) ∧
        (Escaped u.toList ↔ escape (unescape u) = u) := by
  refine ⟨fun s => ?_, escape_append, fun u => ⟨?_, ?_⟩⟩
  · apply String.toList_injective
    rw [toList_unescape, toList_escape, unescapeChars_escapeChars]
  · constructor
    · rintro ⟨s, rfl⟩
      rw [toList_escape]
      exact escaped_escapeChars s.toList
    · intro h
      refine ⟨unescape u, String.toList_injective ?_⟩
      rw [toList_escape, toList_unescape, escapeChars_unescapeChars h]
  · rw [escaped_iff_escapeChars_unescapeChars, ← toList_unescape, ← toList_escape,
      String.toList_inj]

/-- The first of two backslashes takes the second one along. -/
example : Escaped ['\\', '\\', '\\', '('] ∧ ¬Escaped ['\\', '\\', '('] ∧ ¬Escaped ['\\', 'a'] := by
  decide

end QueryTemplates
