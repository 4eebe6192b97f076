import QueryTemplates.Proofs.Fragment.Phrase
import QueryTemplates.Proofs.Placeholder.Render
import QueryTemplates.Proofs.Query.Compile

/-!
# The phrase of a proximity

The two words of a proximity are put between quotes as they are: unlike the words of a term they are
not escaped. So the phrase ends at the quote that was written for it exactly when the words are
quotable, which is when every quote among them stands behind a backslash of its own and no backslash
is left over at their end. Words that were escaped before are quotable; words from data need not be,
and then a quote among them closes the phrase and what follows it is read as part of the query.

About `SPEC_FULL.md` §4.8 (lines 89–91) and §12 (lines 205–209).
-/

namespace QueryTemplates

/-- The characters can stand between quotes as they are: they are backslashes with the character
that each takes along, and other characters that are no quotes. -/
inductive Quotable : List Char → Prop
  | nil : Quotable []
  | plain {c : Char} {cs : List Char} (hslash : c ≠ '\\') (hquote : c ≠ '\x22')
    (hrest : Quotable cs) : Quotable (c :: cs)
  | escaped (c : Char) {cs : List Char} (hrest : Quotable cs) : Quotable ('\\' :: c :: cs)

namespace Quotable

/-- Escaped text can stand between quotes. -/
theorem escapeChars (cs : List Char) : Quotable (escapeChars cs) := by
  induction cs with
  | nil => exact .nil
  | cons c cs ih =>
    rw [escapeChars_cons]
    by_cases h : isReserved c = true
    · rw [escapeChar_of_reserved h]
      exact .escaped c ih
    · rw [escapeChar_of_not_reserved h]
      exact .plain (fun hc => h (isReserved_of_escapes (.inl hc)))
        (fun hc => h (isReserved_of_escapes (.inr hc))) ih

end Quotable

/-- Quotable text is read up to the quote behind it. -/
theorem splitAtQuote_of_quotable {inside : List Char} (h : Quotable inside) (behind : List Char) :
    splitAtQuote (inside ++ '\x22' :: behind) = some (inside, behind) := by
  induction h with
  | nil => rfl
  | plain hslash hquote _ ih =>
    rw [List.cons_append, splitAtQuote_cons hslash hquote, ih]
    rfl
  | escaped c _ ih =>
    rw [List.cons_append, List.cons_append, splitAtQuote, ih]
    rfl

/-- What is read up to a quote is quotable, and nothing is lost. -/
theorem quotable_of_splitAtQuote {cs inside behind : List Char}
    (h : splitAtQuote cs = some (inside, behind)) :
    Quotable inside ∧ cs = inside ++ '\x22' :: behind := by
  induction cs using splitAtQuote.induct generalizing inside behind with
  | case1 => cases h
  | case2 c rest ih =>
    rw [splitAtQuote, Option.map_eq_some_iff] at h
    obtain ⟨⟨part, _⟩, hpart, heq⟩ := h
    obtain ⟨rfl, rfl⟩ := Prod.mk.inj heq
    obtain ⟨hquotable, rfl⟩ := ih hpart
    exact ⟨.escaped c hquotable, rfl⟩
  | case3 rest hlone =>
    cases h
    exact ⟨.nil, rfl⟩
  | case4 c rest hlone hquote ih =>
    rw [splitAtQuote.eq_3 _ _ hlone, if_neg hquote, Option.map_eq_some_iff] at h
    obtain ⟨⟨part, _⟩, hpart, heq⟩ := h
    obtain ⟨rfl, rfl⟩ := Prod.mk.inj heq
    -- a backslash with nothing behind it is read up to no quote
    have hslash : c ≠ '\\' := by
      rintro rfl
      cases rest with
      | nil => cases hpart
      | cons d rest => exact hlone d rest rfl rfl
    obtain ⟨hquotable, rfl⟩ := ih hpart
    exact ⟨.plain hslash hquote hquotable, rfl⟩

/-- Reading up to a quote gives what stands before it exactly when that is quotable. -/
theorem splitAtQuote_eq_some_iff {cs behind : List Char} :
    splitAtQuote (cs ++ '\x22' :: behind) = some (cs, behind) ↔ Quotable cs :=
  ⟨fun h => (quotable_of_splitAtQuote h).1, fun h => splitAtQuote_of_quotable h behind⟩

/-! ### Proximities -/

/-- Read from its opening quote, the text is the phrase of the words and the distance behind it. -/
def IsPhraseWithin (text words : String) (distance : Number) : Prop :=
  readPhrase text.toList = some (words.toList, ("~" ++ distance.suffix).toList)

theorem isPhraseWithin_proximity_iff {first second : String} {distance : Number} :
    IsPhraseWithin (Fragment.proximity first second distance) (first ++ " " ++ second) distance ↔
      Quotable (first ++ " " ++ second).toList := by
  have htext : (Fragment.proximity first second distance).toList
      = '\x22' :: ((first ++ " " ++ second).toList
        ++ '\x22' :: ("~" ++ distance.suffix).toList) := by
    simp [Fragment.proximity]
  rw [IsPhraseWithin, htext, readPhrase, splitAtQuote_eq_some_iff]

theorem proximity_of_within {distance : Number} (h : distance.Within 0 greatestSafe)
    (first second : String) :
    Builder.proximity (.str first) (.str second) (.ofNumber distance)
      = .ok (Fragment.proximity first second distance) := by
  rw [Builder.proximity_str, distance_eq_ok_iff.mpr ⟨rfl, h⟩]
  rfl

theorem compile_proximity_of_within [Objects] {distance : Number}
    (h : distance.Within 0 greatestSafe)
    {first second words words' : String} {data : Value}
    (hfirst : render (.str first) data = .ok words)
    (hsecond : render (.str second) data = .ok words') :
    (Query.proximity first second distance).compile data
      = .ok (Fragment.proximity words words' distance) := by
  refine compile_eq_ok_iff.mpr ⟨?_, ?_⟩
  · rw [show (Query.proximity first second distance).requirements
      = [.filled first, .filled second, .distance distance] from rfl]
    simp only [List.forall_mem_cons]
    exact ⟨⟨_, hfirst⟩, ⟨_, hsecond⟩, h, List.forall_mem_nil _⟩
  · rw [Query.write, filledText_of_ok hfirst, filledText_of_ok hsecond]

/-- Whatever the distance that is accepted, a proximity ends in the quote that was written for it
exactly when its words are quotable. The words may be given or be filled from data; in either case
it is the words as they are that count, for nothing escapes them. Words that are escaped before stay
within the phrase, and are read back from it. -/
theorem proximity_ends_at_its_quote_iff [Objects] {distance : Number}
    (h : distance.Within 0 greatestSafe) :
    (∀ first second, ∃ text,
      Builder.proximity (.str first) (.str second) (.ofNumber distance) = .ok text ∧
        (IsPhraseWithin text (first ++ " " ++ second) distance ↔
          Quotable (first ++ " " ++ second).toList)) ∧
    (∀ first second data words words',
      render (.str first) data = .ok words → render (.str second) data = .ok words' → ∃ text,
        (Query.proximity first second distance).compile data = .ok text ∧
          (IsPhraseWithin text (words ++ " " ++ words') distance ↔
            Quotable (words ++ " " ++ words').toList)) ∧
    ∀ first second, ∃ text,
      Builder.proximity (.str (escape first)) (.str (escape second)) (.ofNumber distance)
          = .ok text ∧
        IsPhraseWithin text (escape first ++ " " ++ escape second) distance ∧
          unescapeChars (escape first ++ " " ++ escape second).toList
            = (first ++ " " ++ second).toList := by
  refine ⟨fun first second => ?_, fun first second data words words' hfirst hsecond => ?_,
    fun first second => ?_⟩
  · exact ⟨_, proximity_of_within h first second, isPhraseWithin_proximity_iff⟩
  · exact ⟨_, compile_proximity_of_within h hfirst hsecond, isPhraseWithin_proximity_iff⟩
  · have hwords : escape first ++ " " ++ escape second = escape (first ++ " " ++ second) := by
      rw [escape_append, escape_append]
      rfl
    refine ⟨_, proximity_of_within h _ _, isPhraseWithin_proximity_iff.mpr ?_, ?_⟩
    · rw [hwords, toList_escape]
      exact .escapeChars _
    · rw [hwords, toList_escape, unescapeChars_escapeChars]

/-- Words with a quote that a backslash takes along stay within the phrase. -/
theorem proximity_ends_at_its_quote :
    (Number.int 3).Within 0 greatestSafe ∧
      IsPhraseWithin (Fragment.proximity "a\\\x22" "b" (.int 3)) "a\\\x22 b" (.int 3) := by
  have hwithin : (Number.int 3).Within 0 greatestSafe := within_int_iff.mpr (by decide)
  obtain ⟨text, htext, hphrase⟩ := (proximity_ends_at_its_quote_iff hwithin).1 "a\\\x22" "b"
  obtain rfl := Except.ok.inj (htext.symm.trans (proximity_of_within hwithin _ _))
  have hquotable : Quotable ['a', '\\', '\x22', ' ', 'b'] :=
    .plain (by decide) (by decide) (.escaped _ (.plain (by decide) (by decide)
      (.plain (by decide) (by decide) .nil)))
  exact ⟨hwithin, hphrase.mpr hquotable⟩

/-- A quote in data closes the phrase, and an operator behind it becomes one of the query. -/
theorem proximity_closed_by_data :
    let q : Query := .proximity "\x7bname\x7d" "c" (.int 3)
    let data : Value := .map [(.str "name", .str "a\x22 OR \x22b")]
    (Number.int 3).Within 0 greatestSafe ∧
      q.compile data = .ok "\x22a\x22 OR \x22b c\x22~3" ∧
      readPhrase "\x22a\x22 OR \x22b c\x22~3".toList
        = some ("a".toList, " OR \x22b c\x22~3".toList) ∧
      ¬IsPhraseWithin "\x22a\x22 OR \x22b c\x22~3" "a\x22 OR \x22b c" (.int 3) := by
  intro q data
  have hwithin : (Number.int 3).Within 0 greatestSafe := within_int_iff.mpr (by decide)
  have hname : render (.str "\x7bname\x7d") data = .ok "a\x22 OR \x22b" := by cbv
  have hc : render (.str "c") data = .ok "c" := render_of_braceFree (by decide) data
  have hread : readPhrase "\x22a\x22 OR \x22b c\x22~3".toList
      = some ("a".toList, " OR \x22b c\x22~3".toList) := by decide
  refine ⟨hwithin, ?_, hread, ?_⟩
  · exact compile_proximity_of_within hwithin hname hc
  · rw [IsPhraseWithin, hread]
    decide

end QueryTemplates
