import QueryTemplates.Fragment.Basic

/-!
# Quoted phrases

A phrase is read back from its opening quote: a backslash takes the next character along, and the
first quote that is not taken along closes the phrase. Whatever words a term is made of, its phrase
is closed by the quote that was written for it, and without the backslashes it is the words again.

About `SPEC_FULL.md` §4.2 (lines 63–64).
-/

namespace QueryTemplates

/-- What stands before the first quote that no backslash takes along, and what stands behind it. -/
def splitAtQuote : List Char → Option (List Char × List Char)
  | [] => none
  | '\\' :: c :: rest =>
    (splitAtQuote rest).map fun (inside, behind) => ('\\' :: c :: inside, behind)
  | c :: rest =>
    if c = '\x22' then some ([], rest)
    else (splitAtQuote rest).map fun (inside, behind) => (c :: inside, behind)

/-- The characters without the backslashes that take a character along. -/
def unescapeChars : List Char → List Char
  | [] => []
  | '\\' :: c :: rest => c :: unescapeChars rest
  | c :: rest => c :: unescapeChars rest

/-- Reads a phrase from its opening quote: what stands in the quotes, and what stands behind. -/
def readPhrase : List Char → Option (List Char × List Char)
  | '\x22' :: rest => splitAtQuote rest
  | _ => none

section

variable {c : Char}

/-- The characters that end a phrase or escape are reserved. -/
theorem isReserved_of_escapes (h : c = '\\' ∨ c = '\x22') : isReserved c = true := by
  rcases h with rfl | rfl <;> decide

theorem escapeChar_of_reserved (h : isReserved c = true) : escapeChar c = ['\\', c] := by
  rw [escapeChar, if_pos h]

theorem escapeChar_of_not_reserved (h : ¬isReserved c = true) : escapeChar c = [c] := by
  rw [escapeChar, if_neg h]

/-- A character that neither escapes nor ends the phrase belongs to it. -/
theorem splitAtQuote_cons (hslash : c ≠ '\\') (hquote : c ≠ '\x22') (rest : List Char) :
    splitAtQuote (c :: rest)
      = (splitAtQuote rest).map fun (inside, behind) => (c :: inside, behind) := by
  rw [splitAtQuote, if_neg hquote]
  intro _ _ h
  exact absurd h hslash

theorem unescapeChars_cons (hslash : c ≠ '\\') (rest : List Char) :
    unescapeChars (c :: rest) = c :: unescapeChars rest := by
  rw [unescapeChars]
  intro _ _ h
  exact absurd h hslash

end

/-- No quote within escaped text closes it. -/
theorem splitAtQuote_escapeChars (cs behind : List Char) :
    splitAtQuote (escapeChars cs ++ '\x22' :: behind) = some (escapeChars cs, behind) := by
  induction cs with
  | nil => rfl
  | cons c cs ih =>
    rw [escapeChars_cons]
    by_cases h : isReserved c = true
    · rw [escapeChar_of_reserved h]
      show splitAtQuote ('\\' :: c :: (escapeChars cs ++ '\x22' :: behind)) = _
      rw [splitAtQuote, ih]
      rfl
    · have hslash : c ≠ '\\' := fun hc => h (isReserved_of_escapes (.inl hc))
      have hquote : c ≠ '\x22' := fun hc => h (isReserved_of_escapes (.inr hc))
      rw [escapeChar_of_not_reserved h]
      show splitAtQuote (c :: (escapeChars cs ++ '\x22' :: behind)) = _
      rw [splitAtQuote_cons hslash hquote, ih]
      rfl

/-- Escaping is undone exactly. -/
theorem unescapeChars_escapeChars (cs : List Char) : unescapeChars (escapeChars cs) = cs := by
  induction cs with
  | nil => rfl
  | cons c cs ih =>
    rw [escapeChars_cons]
    by_cases h : isReserved c = true
    · rw [escapeChar_of_reserved h]
      show unescapeChars ('\\' :: c :: escapeChars cs) = _
      rw [unescapeChars, ih]
    · have hslash : c ≠ '\\' := fun hc => h (isReserved_of_escapes (.inl hc))
      rw [escapeChar_of_not_reserved h]
      show unescapeChars (c :: escapeChars cs) = _
      rw [unescapeChars_cons hslash, ih]

/-- A term is its escaped words between quotes. -/
theorem toList_term (words : String) :
    (Fragment.term words).toList = '\x22' :: (escapeChars words.toList ++ ['\x22']) := by
  simp [Fragment.term]

/-- The phrase of a term ends with the term, whatever follows. -/
theorem readPhrase_term (words : String) (behind : List Char) :
    readPhrase ((Fragment.term words).toList ++ behind)
      = some (escapeChars words.toList, behind) := by
  rw [toList_term]
  show splitAtQuote (escapeChars words.toList ++ ['\x22'] ++ behind) = _
  rw [List.append_assoc]
  exact splitAtQuote_escapeChars words.toList behind

end QueryTemplates
