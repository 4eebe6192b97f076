import QueryTemplates.Proofs.Fragment.Decision
import QueryTemplates.Proofs.Number.Suffix
import QueryTemplates.Proofs.Query.Requirement

/-!
# Suffixes

A similarity, a distance and a factor stand at the end of their fragment, behind a mark. No written
number holds a mark, so the last mark of a fragment is the one that was written for its number,
whatever the fragment in front of it ends with: both are read back from the text. The number is a
numeral of the query syntax unless it is tiny; a factor never is. Main statements:
`suffixed_by_numerals` and `suffixed_eq_iff`.

About `SPEC_FULL.md` §§4.7–4.9 (lines 85–94).
-/

namespace QueryTemplates

/-! ### What is accepted -/

/-- A builder behind a check gives a text exactly for the numbers that pass. -/
theorem bind_checkRange_eq_ok_iff {least most : Value} {argument : Argument} {low high : Int}
    (hrange : ∀ {n m : Number},
      checkRange least most argument (.ofNumber n) = .ok m ↔ m = n ∧ n.Within low high)
    {v : Value} {next : Number → String} {text : String} :
    (do return next (← checkRange least most argument v)) = .ok text ↔
      ∃ n, v = .ofNumber n ∧ n.Within low high ∧ text = next n := by
  rw [bind_eq_ok_iff]
  constructor
  · rintro ⟨m, hm, htext⟩
    cases hv : v.number? with
    | none =>
      rw [checkRange, hv] at hm
      cases hm
    | some n =>
      obtain rfl := Value.number?_eq_some_iff.mp hv
      obtain ⟨rfl, hwithin⟩ := hrange.mp hm
      exact ⟨m, rfl, hwithin, (Except.ok.inj htext).symm⟩
  · rintro ⟨n, rfl, hwithin, rfl⟩
    exact ⟨n, hrange.mpr ⟨rfl, hwithin⟩, rfl⟩

section

variable {query first second text : String} {v : Value}

/-- A similarity is absent, or it stands behind the mark. -/
theorem fuzzy_eq_ok_iff :
    Builder.fuzzy (.str query) v = .ok text ↔
      v = .null ∧ text = query ++ "~" ∨
        ∃ n, v = .ofNumber n ∧ n.Within 0 1 ∧ text = query ++ "~" ++ n.suffix := by
  by_cases hnull : v = .null
  · subst hnull
    simp [Fragment.fuzzy, ofNumber_ne_null, eq_comm]
  · rw [Builder.fuzzy_of_ne_null query hnull, bind_checkRange_eq_ok_iff similarity_eq_ok_iff]
    simp [hnull, Fragment.fuzzy]

/-- A distance stands behind the quotes and the mark. -/
theorem proximity_eq_ok_iff :
    Builder.proximity (.str first) (.str second) v = .ok text ↔
      ∃ n, v = .ofNumber n ∧ n.Within 0 greatestSafe ∧
        text = "\x22" ++ first ++ " " ++ second ++ "\x22~" ++ n.suffix := by
  rw [Builder.proximity_str, bind_checkRange_eq_ok_iff distance_eq_ok_iff]
  rfl

theorem boost_eq_ok_iff :
    Builder.boost (.str query) v = .ok text ↔
      ∃ n, v = .ofNumber n ∧ n.Within 1 greatestSafe ∧ text = query ++ "^" ++ n.suffix := by
  rw [Builder.boost_str, bind_checkRange_eq_ok_iff factor_eq_ok_iff]
  rfl

end

/-! ### Numerals -/

/-- The text is `front` and a numeral of the query syntax, or one with a negative power of ten if
the number is tiny. -/
def NumeralBehind (front : String) (n : Number) (text : String) : Prop :=
  ∃ suffix, text = front ++ suffix ∧ (PlainNumeral suffix.toList ↔ ¬n.Tiny) ∧
    (PowerNumeral suffix.toList ↔ n.Tiny)

/-- Behind any text the number can be read off. -/
theorem numeralBehind_suffix {n : Number} (h : n.Within 0 greatestSafe) (front : String) :
    NumeralBehind front n (front ++ n.suffix) :=
  ⟨n.suffix, rfl, plainNumeral_suffix_iff h, powerNumeral_suffix_iff h⟩

theorem not_tiny_of_within {n : Number} {most : Int} (h : n.Within 1 most) : ¬n.Tiny := by
  rintro ⟨units, hunits, -, hlt⟩
  obtain ⟨units', hunits', hleast, -⟩ := h
  obtain rfl := Level.units.inj (Option.some.inj (hunits.symm.trans hunits'))
  omega

/-- An accepted number is written behind its mark as a numeral of the query syntax exactly when it
is not tiny, and with a negative power of ten exactly when it is. A factor is never tiny. -/
theorem suffixed_by_numerals {n : Number} {text : String} :
    (∀ query, Builder.fuzzy (.str query) (.ofNumber n) = .ok text →
      NumeralBehind (query ++ "~") n text) ∧
    (∀ first second, Builder.proximity (.str first) (.str second) (.ofNumber n) = .ok text →
      NumeralBehind ("\x22" ++ first ++ " " ++ second ++ "\x22~") n text) ∧
    ∀ query, Builder.boost (.str query) (.ofNumber n) = .ok text →
      ∃ suffix, text = query ++ "^" ++ suffix ∧ PlainNumeral suffix.toList := by
  refine ⟨fun query h => ?_, fun first second h => ?_, fun query h => ?_⟩
  · rcases fuzzy_eq_ok_iff.mp h with ⟨hnull, -⟩ | ⟨m, hm, hwithin, rfl⟩
    · exact absurd hnull (ofNumber_ne_null n)
    · obtain rfl := eq_of_ofNumber_eq hm
      exact numeralBehind_suffix (hwithin.mono (Int.le_refl 0) (by decide)) _
  · obtain ⟨m, hm, hwithin, rfl⟩ := proximity_eq_ok_iff.mp h
    obtain rfl := eq_of_ofNumber_eq hm
    exact numeralBehind_suffix hwithin _
  · obtain ⟨m, hm, hwithin, rfl⟩ := boost_eq_ok_iff.mp h
    obtain rfl := eq_of_ofNumber_eq hm
    have hsafe := hwithin.mono (by decide : (0 : Int) ≤ 1) (Int.le_refl _)
    exact ⟨n.suffix, rfl, (plainNumeral_suffix_iff hsafe).mpr (not_tiny_of_within hwithin)⟩

/-- A part in a hundred thousand, as near as a binary number comes to it. -/
def hundredThousandth : Number := .float (.finite false ⟨0x3EE4F8B588E368F1, by decide +kernel⟩)

theorem suffix_hundredThousandth : hundredThousandth.suffix = "1e-05" := by decide +kernel

theorem within_hundredThousandth : hundredThousandth.Within 0 1 :=
  within_iff_le.mpr (by decide +kernel)

/-- A similarity that is tiny is written with a power of ten. -/
theorem fuzzy_hundredThousandth :
    Builder.fuzzy (.str "q") (.ofNumber hundredThousandth) = .ok "q~1e-05" :=
  fuzzy_eq_ok_iff.mpr
    (.inr ⟨_, rfl, within_hundredThousandth, by rw [suffix_hundredThousandth]; rfl⟩)

/-- A tiny similarity beside a distance and a factor that are not. -/
theorem suffixed_by_numerals_small_and_large :
    (Builder.fuzzy (.str "q") (.ofNumber hundredThousandth) = .ok "q~1e-05" ∧
      NumeralBehind "q~" hundredThousandth "q~1e-05") ∧
    (Builder.proximity (.str "a") (.str "b") (.ofNumber (.int 10)) = .ok "\x22a b\x22~10" ∧
      NumeralBehind "\x22a b\x22~" (.int 10) "\x22a b\x22~10") ∧
    Builder.boost (.str "q") (.ofNumber (.int 10)) = .ok "q^10" ∧
      ∃ suffix, "q^10" = "q^" ++ suffix ∧ PlainNumeral suffix.toList := by
  have hten : (Number.int 10).Within 1 greatestSafe := within_int_iff.mpr (by decide)
  have hdistance : Builder.proximity (.str "a") (.str "b") (.ofNumber (.int 10))
      = .ok "\x22a b\x22~10" :=
    proximity_eq_ok_iff.mpr ⟨.int 10, rfl, hten.mono (by decide) (Int.le_refl _), rfl⟩
  have hfactor : Builder.boost (.str "q") (.ofNumber (.int 10)) = .ok "q^10" :=
    boost_eq_ok_iff.mpr ⟨.int 10, rfl, hten, rfl⟩
  exact ⟨⟨fuzzy_hundredThousandth, suffixed_by_numerals.1 "q" fuzzy_hundredThousandth⟩,
    ⟨hdistance, suffixed_by_numerals.2.1 "a" "b" hdistance⟩,
    hfactor, suffixed_by_numerals.2.2 "q" hfactor⟩

/-- Not every accepted similarity is written as a numeral of the query syntax. -/
theorem similarity_with_power :
    Builder.fuzzy (.str "q") (.ofNumber hundredThousandth) = .ok "q~1e-05" ∧
      ¬∃ suffix, "q~1e-05" = "q~" ++ suffix ∧ PlainNumeral suffix.toList := by
  refine ⟨fuzzy_hundredThousandth, ?_⟩
  rintro ⟨suffix, htext, hplain⟩
  have hletter : 'e' ∈ ("q~1e-05" : String).toList := by decide
  rw [htext, String.toList_append, List.mem_append] at hletter
  exact hletter.elim (by decide) hplain.notMem

/-! ### Reading back -/

/-- What stands before the last mark, and what stands behind it. -/
def splitAtLast (mark : Char) : List Char → Option (List Char × List Char)
  | [] => none
  | c :: rest => match splitAtLast mark rest with
    | some (front, behind) => some (c :: front, behind)
    | none => if c = mark then some ([], rest) else none

section

variable {mark : Char} {front front' behind behind' : List Char}

/-- Without the mark there is no last one. -/
theorem splitAtLast_of_notMem (h : mark ∉ behind) : splitAtLast mark behind = none := by
  induction behind with
  | nil => rfl
  | cons c rest ih =>
    obtain ⟨hc, hrest⟩ := not_or.mp (mt List.mem_cons.mpr h)
    rw [splitAtLast, ih hrest]
    exact if_neg (Ne.symm hc)

/-- The last mark is found whatever stands in front of it. -/
theorem splitAtLast_append (front : List Char) (h : mark ∉ behind) :
    splitAtLast mark (front ++ mark :: behind) = some (front, behind) := by
  induction front with
  | nil =>
    rw [List.nil_append, splitAtLast, splitAtLast_of_notMem h]
    exact if_pos rfl
  | cons c front ih => rw [List.cons_append, splitAtLast, ih]

/-- Texts with one mark behind which there is none agree on both sides of it. -/
theorem append_mark_eq_iff (h : mark ∉ behind) (h' : mark ∉ behind') :
    front ++ mark :: behind = front' ++ mark :: behind' ↔ front = front' ∧ behind = behind' := by
  constructor
  · intro heq
    have hsplit := splitAtLast_append front h
    rw [heq, splitAtLast_append front' h'] at hsplit
    simpa [eq_comm] using hsplit
  · rintro ⟨rfl, rfl⟩
    rfl

end

/-- No written number holds a character that is not its own. -/
theorem notMem_suffix {c : Char} (h : isNumeral c = false) (n : Number) : c ∉ n.suffix.toList := by
  intro hmem
  rw [isNumeral_of_mem_suffix hmem] at h
  cases h

section

variable {mark : String} {c : Char} {front front' : String} {n n' : Number}

/-- Behind a mark that no number holds, fragments are told by what stands in front and by the
number. -/
theorem marked_eq_iff (hmark : mark.toList = [c]) (hc : isNumeral c = false)
    (h : n.Within 0 greatestSafe) (h' : n'.Within 0 greatestSafe) :
    front ++ mark ++ n.suffix = front' ++ mark ++ n'.suffix ↔
      front = front' ∧ n.same n' = true := by
  rw [← suffix_eq_iff h h', ← String.toList_inj]
  simp only [String.toList_append, hmark, List.append_assoc, List.singleton_append]
  rw [append_mark_eq_iff (notMem_suffix hc n) (notMem_suffix hc n'), String.toList_inj,
    String.toList_inj]

/-- A number stands behind the mark, so a bare mark is no mark with a number. -/
theorem marked_ne_bare (hmark : mark.toList = [c]) (hc : isNumeral c = false)
    (h : n.Within 0 greatestSafe) : front ++ mark ++ n.suffix ≠ front' ++ mark := by
  intro heq
  rw [← String.toList_inj] at heq
  simp only [String.toList_append, hmark, List.append_assoc, List.singleton_append] at heq
  obtain ⟨-, hnil⟩ := (append_mark_eq_iff (notMem_suffix hc n) List.not_mem_nil).mp heq
  exact suffix_ne_nil h hnil

end

/-- The values are numbers and equal by exact value. -/
def Value.EqualNumbers (v w : Value) : Prop :=
  ∃ n m, v = .ofNumber n ∧ w = .ofNumber m ∧ n.same m = true

theorem equalNumbers_ofNumber_iff {n m : Number} :
    (Value.ofNumber n).EqualNumbers (.ofNumber m) ↔ n.same m = true := by
  constructor
  · rintro ⟨_, _, hn, hm, hsame⟩
    rwa [eq_of_ofNumber_eq hn, eq_of_ofNumber_eq hm]
  · exact fun hsame => ⟨n, m, rfl, rfl, hsame⟩

/-- The absent similarity equals no number. -/
theorem not_equalNumbers_null_left {v : Value} : ¬Value.EqualNumbers .null v := by
  rintro ⟨n, _, hnull, -⟩
  exact ofNumber_ne_null n hnull.symm

theorem not_equalNumbers_null_right {v : Value} : ¬v.EqualNumbers .null := by
  rintro ⟨_, n, -, hnull, -⟩
  exact ofNumber_ne_null n hnull.symm

section

variable {query query' first first' second second' text text' : String} {v v' : Value}

/-- Queries with a similarity are written alike exactly when query and similarity agree. -/
theorem fuzzy_texts_eq_iff (h : Builder.fuzzy (.str query) v = .ok text)
    (h' : Builder.fuzzy (.str query') v' = .ok text') :
    text = text' ↔ query = query' ∧ (v = .null ∧ v' = .null ∨ v.EqualNumbers v') := by
  have hsafe {n : Number} (h : n.Within 0 1) : n.Within 0 greatestSafe :=
    h.mono (Int.le_refl 0) (by decide)
  rcases fuzzy_eq_ok_iff.mp h with ⟨rfl, rfl⟩ | ⟨n, rfl, hn, rfl⟩
  · rcases fuzzy_eq_ok_iff.mp h' with ⟨rfl, rfl⟩ | ⟨n', rfl, hn', rfl⟩
    · simp
    · have hne : query ++ "~" ≠ query' ++ "~" ++ n'.suffix :=
        (marked_ne_bare (c := '~') rfl rfl (hsafe hn')).symm
      simp [hne, ofNumber_ne_null, not_equalNumbers_null_left]
  · rcases fuzzy_eq_ok_iff.mp h' with ⟨rfl, rfl⟩ | ⟨n', rfl, hn', rfl⟩
    · have hne : query ++ "~" ++ n.suffix ≠ query' ++ "~" :=
        marked_ne_bare (c := '~') rfl rfl (hsafe hn)
      simp [hne, ofNumber_ne_null, not_equalNumbers_null_right]
    · rw [marked_eq_iff rfl rfl (hsafe hn) (hsafe hn'), equalNumbers_ofNumber_iff]
      simp [ofNumber_ne_null]

/-- Proximities are written alike exactly when words and distance agree. -/
theorem proximity_texts_eq_iff
    (h : Builder.proximity (.str first) (.str second) v = .ok text)
    (h' : Builder.proximity (.str first') (.str second') v' = .ok text') :
    text = text' ↔
      first ++ " " ++ second = first' ++ " " ++ second' ∧ v.EqualNumbers v' := by
  obtain ⟨n, rfl, hn, rfl⟩ := proximity_eq_ok_iff.mp h
  obtain ⟨n', rfl, hn', rfl⟩ := proximity_eq_ok_iff.mp h'
  -- the quote in front of the mark belongs to what stands in front
  have hfront (first second : String) : "\x22" ++ first ++ " " ++ second ++ "\x22~"
      = "\x22" ++ (first ++ " " ++ second) ++ "\x22" ++ "~" := by
    simp [String.append_assoc]
  rw [hfront, hfront, marked_eq_iff rfl rfl hn hn', equalNumbers_ofNumber_iff]
  simp

/-- Boosted queries are written alike exactly when query and factor agree. -/
theorem boost_texts_eq_iff (h : Builder.boost (.str query) v = .ok text)
    (h' : Builder.boost (.str query') v' = .ok text') :
    text = text' ↔ query = query' ∧ v.EqualNumbers v' := by
  obtain ⟨n, rfl, hn, rfl⟩ := boost_eq_ok_iff.mp h
  obtain ⟨n', rfl, hn', rfl⟩ := boost_eq_ok_iff.mp h'
  have hsafe {n : Number} (h : n.Within 1 greatestSafe) : n.Within 0 greatestSafe :=
    h.mono (by decide) (Int.le_refl _)
  rw [marked_eq_iff rfl rfl (hsafe hn) (hsafe hn'), equalNumbers_ofNumber_iff]

end

/-- Fragments with suffixes are the same text when they are made of the same text in front and of
numbers that are equal by exact value, and only then; the words of a proximity are one text, and the
bare mark of a similarity that is null is like no other. -/
theorem suffixed_eq_iff {v v' : Value} {text text' : String} :
    (∀ query query', Builder.fuzzy (.str query) v = .ok text →
      Builder.fuzzy (.str query') v' = .ok text' →
        (text = text' ↔ query = query' ∧ (v = .null ∧ v' = .null ∨ v.EqualNumbers v'))) ∧
    (∀ first second first' second', Builder.proximity (.str first) (.str second) v = .ok text →
      Builder.proximity (.str first') (.str second') v' = .ok text' →
        (text = text' ↔
          first ++ " " ++ second = first' ++ " " ++ second' ∧ v.EqualNumbers v')) ∧
    ∀ query query', Builder.boost (.str query) v = .ok text →
      Builder.boost (.str query') v' = .ok text' →
        (text = text' ↔ query = query' ∧ v.EqualNumbers v') :=
  ⟨fun _ _ => fuzzy_texts_eq_iff, fun _ _ _ _ => proximity_texts_eq_iff,
    fun _ _ => boost_texts_eq_iff⟩

/-- The binary number one. -/
def binaryOne : Number := .float (.finite false ⟨0x3FF0000000000000, by decide +kernel⟩)

theorem suffix_binaryOne : binaryOne.suffix = "1" := by decide +kernel

theorem within_binaryOne : binaryOne.Within 0 1 := within_iff_le.mpr (by decide +kernel)

/-- One is written alike as either kind of number, behind text that ends like it; words are told
when joined; and a mark in front of the last one belongs to the query. -/
theorem suffixed_eq_iff_behind_marks :
    (Builder.fuzzy (.str "a~1") (.int 1) = .ok "a~1~1" ∧
      Builder.fuzzy (.str "a~1") (.ofNumber binaryOne) = .ok "a~1~1" ∧
        (Value.int 1).EqualNumbers (.ofNumber binaryOne)) ∧
    (Builder.proximity (.str "a") (.str "b c") (.int 2) = .ok "\x22a b c\x22~2" ∧
      Builder.proximity (.str "a b") (.str "c") (.int 2) = .ok "\x22a b c\x22~2" ∧
        (Value.int 2).EqualNumbers (.int 2)) ∧
    Builder.boost (.str "a^2") (.int 3) = .ok "a^2^3" ∧
      Builder.boost (.str "a") (.int 23) = .ok "a^23" ∧
        ¬("a^2" = "a" ∧ (Value.int 3).EqualNumbers (.int 23)) := by
  have hone : Builder.fuzzy (.str "a~1") (.int 1) = .ok "a~1~1" :=
    fuzzy_eq_ok_iff.mpr (.inr ⟨.int 1, rfl, within_int_iff.mpr (by decide), rfl⟩)
  have hbinaryOne : Builder.fuzzy (.str "a~1") (.ofNumber binaryOne) = .ok "a~1~1" :=
    fuzzy_eq_ok_iff.mpr (.inr ⟨_, rfl, within_binaryOne, by rw [suffix_binaryOne]; rfl⟩)
  have htwo : Builder.proximity (.str "a") (.str "b c") (.int 2) = .ok "\x22a b c\x22~2" :=
    proximity_eq_ok_iff.mpr ⟨.int 2, rfl, within_int_iff.mpr (by decide), rfl⟩
  have htwo' : Builder.proximity (.str "a b") (.str "c") (.int 2) = .ok "\x22a b c\x22~2" :=
    proximity_eq_ok_iff.mpr ⟨.int 2, rfl, within_int_iff.mpr (by decide), rfl⟩
  have hthree : Builder.boost (.str "a^2") (.int 3) = .ok "a^2^3" :=
    boost_eq_ok_iff.mpr ⟨.int 3, rfl, within_int_iff.mpr (by decide), rfl⟩
  have hlong : Builder.boost (.str "a") (.int 23) = .ok "a^23" :=
    boost_eq_ok_iff.mpr ⟨.int 23, rfl, within_int_iff.mpr (by decide), rfl⟩
  refine ⟨⟨hone, hbinaryOne, ?_⟩, ⟨htwo, htwo', ?_⟩, hthree, hlong, ?_⟩
  · have hsame := ((suffixed_eq_iff.1 _ _ hone hbinaryOne).mp rfl).2
    exact hsame.resolve_left fun hnull => by cases hnull.1
  · exact ((suffixed_eq_iff.2.1 _ _ _ _ htwo htwo').mp rfl).2
  · exact mt (suffixed_eq_iff.2.2 _ _ hthree hlong).mpr (by decide)

end QueryTemplates
