import QueryTemplates.Proofs.Number.Range

/-!
# What checks of numbers decide

A check of numbers looks at the kinds of its arguments first and at the number then. What is no
number is refused for its kind, a number that fits is returned, and every other number is refused
for its value, with one exception: an integer so large that it rounds to no finite binary number
does not reach the comparison with its bounds, and is told as an overflow. Main statement:
`range_checks_decide`.

About `SPEC_FULL.md` §4.1 (lines 55–58).
-/

namespace QueryTemplates

namespace Value

/-- The value is text. -/
def IsText (v : Value) : Prop := ∃ s, v = .str s

/-- The value is a number; truth values are none. -/
def IsNumber (v : Value) : Prop := ∃ n, v = .ofNumber n

/-- The value can be a bound and counts as that number; truth values can. -/
def CountsAs (v : Value) (n : Number) : Prop := ∃ s, v = .scalar s ∧ s.number? = some n

/-- The value is an integer that rounds to no finite binary number. -/
def Beyond (v : Value) : Prop := ∃ k, v = .int k ∧ leastBeyond ≤ k.natAbs

end Value

/-- What a check of a range asks of a number. -/
structure Number.Fits (n low high : Number) : Prop where
  notNaN : n.isNaN = false
  safe : n.Within (-greatestSafe) greatestSafe
  least : low.le n = true
  most : n.le high = true

/-- The value is a number that fits. -/
def Value.Fits (low high : Number) (v : Value) : Prop := ∃ n, v = .ofNumber n ∧ n.Fits low high

/-- An outcome is decided by three conditions: whether the arguments have the right kinds, whether
the number fits, and whether it is beyond the finite numbers. The conditions cover every case, so
there is no other outcome. -/
structure Decides {α : Type} (kinds fits beyond : Prop) (outcome : Except ArgumentError α) :
    Prop where
  returned : (∃ a, outcome = .ok a) ↔ kinds ∧ fits
  wrongType : FailsWith (·.category = .wrongType) outcome ↔ ¬kinds
  overflow : FailsWith (·.category = .overflow) outcome ↔ kinds ∧ beyond
  badValue : FailsWith (·.category = .badValue) outcome ↔ kinds ∧ ¬fits ∧ ¬beyond

namespace Decides

variable {α β : Type} {kinds fits beyond : Prop} {e : ArgumentError}

theorem of_ok (hkinds : kinds) (hfits : fits) (hbeyond : ¬beyond) (a : α) :
    Decides kinds fits beyond (.ok a) := by
  constructor <;> simp [not_failsWith_ok, hkinds, hfits, hbeyond]

/-- To refuse the kind of a value is right for one of another kind. -/
theorem of_wrongType (he : e.category = .wrongType) (hkinds : ¬kinds) :
    Decides kinds fits beyond (.error e : Except ArgumentError α) := by
  constructor <;> simp [failsWith_error_iff, he, hkinds]

/-- To overflow is right for an integer beyond all binary numbers. -/
theorem of_overflow (he : e.category = .overflow) (hkinds : kinds) (hfits : ¬fits)
    (hbeyond : beyond) : Decides kinds fits beyond (.error e : Except ArgumentError α) := by
  constructor <;> simp [failsWith_error_iff, he, hkinds, hfits, hbeyond]

/-- To refuse a value is right for one of the kind that does not fit. -/
theorem of_badValue (he : e.category = .badValue) (hkinds : kinds) (hfits : ¬fits)
    (hbeyond : ¬beyond) : Decides kinds fits beyond (.error e : Except ArgumentError α) := by
  constructor <;> simp [failsWith_error_iff, he, hkinds, hfits, hbeyond]

/-- What is made of the result decides nothing. -/
theorem bind_pure {outcome : Except ArgumentError α} (h : Decides kinds fits beyond outcome)
    (f : α → β) : Decides kinds fits beyond (do return f (← outcome)) where
  returned := by
    rw [← h.returned]
    cases outcome <;> simp [pure, Except.pure]
  wrongType := failsWith_bind_pure_iff.trans h.wrongType
  overflow := failsWith_bind_pure_iff.trans h.overflow
  badValue := failsWith_bind_pure_iff.trans h.badValue

/-- A text in front is one more kind to be right. -/
theorem after_checkText {argument : Argument} {v : Value} {next : String → Except ArgumentError α}
    (h : ∀ s, v = .str s → Decides kinds fits beyond (next s)) :
    Decides (v.IsText ∧ kinds) fits beyond (checkText argument v >>= next) := by
  cases htext : checkText argument v with
  | ok s =>
    obtain rfl := checkText_eq_ok_iff.mp htext
    have hs := h s rfl
    have hkinds : Value.IsText (.str s) ∧ kinds ↔ kinds := and_iff_right ⟨s, rfl⟩
    rw [ok_bind]
    constructor
    · rw [hkinds, hs.returned]
    · rw [hkinds, hs.wrongType]
    · rw [hkinds, hs.overflow]
    · rw [hkinds, hs.badValue]
  | error e =>
    have hv : ¬v.IsText := by
      rintro ⟨s, rfl⟩
      cases htext
    have he : e.category = .wrongType := by
      cases v with
      | scalar s => cases s <;> cases htext <;> rfl
      | _ => cases htext; rfl
    exact of_wrongType he fun hkinds => hv hkinds.1

end Decides

/-! ### Numbers -/

/-- A value tells which number it was made of. -/
theorem eq_of_ofNumber_eq {n m : Number} (h : Value.ofNumber n = .ofNumber m) : n = m := by
  have hnumber := congrArg Value.number? h
  rwa [Value.number?_ofNumber, Value.number?_ofNumber, Option.some_inj] at hnumber

theorem isNumber_iff {v : Value} : v.IsNumber ↔ v.number?.isSome := by
  simp only [Value.IsNumber, Option.isSome_iff_exists, Value.number?_eq_some_iff]

section

variable {low high n : Number}

/-- A value made of a number fits exactly when that does. -/
theorem fits_ofNumber_iff : (Value.ofNumber n).Fits low high ↔ n.Fits low high := by
  constructor
  · rintro ⟨m, hm, hfits⟩
    rwa [eq_of_ofNumber_eq hm]
  · exact fun h => ⟨n, rfl, h⟩

theorem beyond_ofNumber_iff :
    (Value.ofNumber n).Beyond ↔ ∃ k, n = .int k ∧ leastBeyond ≤ k.natAbs := by
  constructor
  · rintro ⟨k, hk, hbeyond⟩
    exact ⟨k, eq_of_ofNumber_eq hk, hbeyond⟩
  · rintro ⟨k, rfl, hbeyond⟩
    exact ⟨k, rfl, hbeyond⟩

/-- A number of safe magnitude has a binary number near it. -/
theorem not_beyond_of_isSafe (h : n.isSafe = true) : ¬(Value.ofNumber n).Beyond := by
  rw [beyond_ofNumber_iff]
  rintro ⟨k, rfl, hbeyond⟩
  have hsafe := within_int_iff.mp (isSafe_iff.mp h)
  have hgreatest := greatestSafe_lt_leastBeyond
  omega

/-- The first check refuses NaN for its value, and an integer that is beyond the finite numbers. -/
theorem checkNotNaN_cases (argument : Argument) (n : Number) :
    checkNotNaN argument n = .ok () ∧ n.isNaN = false ∧ ¬(Value.ofNumber n).Beyond ∨
      checkNotNaN argument n = .error (.nan argument) ∧ n.isNaN = true ∧
        ¬(Value.ofNumber n).Beyond ∨
      checkNotNaN argument n = .error .unrepresentable ∧ (Value.ofNumber n).Beyond := by
  rw [beyond_ofNumber_iff]
  cases n with
  | int k =>
    by_cases hbeyond : leastBeyond ≤ k.natAbs
    · have hnone := ofInt?_eq_none_iff.mpr hbeyond
      simp [checkNotNaN, hnone, hbeyond]
    · have hsome := Option.isSome_iff_ne_none.mpr (mt ofInt?_eq_none_iff.mp hbeyond)
      simp [checkNotNaN, hsome, hbeyond, Number.isNaN]
  | float x => cases x <;> simp [checkNotNaN, Number.isNaN]

end

/-! ### Ranges -/

section

variable {least most : Value} {low high : Number}

/-- A bound that counts as a number is compared like it from below. -/
theorem boundLe_of_countsAs_left (h : least.CountsAs low) (n : Number) :
    boundLe least (.ofNumber n) = .ok (low.le n) := by
  obtain ⟨s, rfl, hs⟩ := h
  cases n <;> rw [Value.ofNumber, boundLe, hs] <;> rfl

/-- A bound that counts as a number is compared like it from above. -/
theorem boundLe_of_countsAs_right (h : most.CountsAs high) (n : Number) :
    boundLe (.ofNumber n) most = .ok (n.le high) := by
  obtain ⟨s, rfl, hs⟩ := h
  cases n <;> rw [Value.ofNumber, boundLe, hs] <;> rfl

/-- A check of a range decides about any value, for bounds that count as numbers. -/
theorem decides_checkRange (hleast : least.CountsAs low) (hmost : most.CountsAs high)
    (argument : Argument) (v : Value) :
    Decides v.IsNumber (v.Fits low high) v.Beyond (checkRange least most argument v) := by
  cases hv : v.number? with
  | none =>
    rw [checkRange, hv]
    exact .of_wrongType rfl (by simp [isNumber_iff, hv])
  | some n =>
    obtain rfl := Value.number?_eq_some_iff.mp hv
    have hkinds : (Value.ofNumber n).IsNumber := ⟨n, rfl⟩
    rw [checkRange_eq (boundLe_of_countsAs_left hleast n) (boundLe_of_countsAs_right hmost n)]
    rcases checkNotNaN_cases argument n with ⟨hcheck, hnan, hbeyond⟩ | ⟨hcheck, hnan, hbeyond⟩ |
      ⟨hcheck, hbeyond⟩
    · rw [hcheck, ok_bind]
      by_cases hsafe : n.isSafe = true
      · rw [if_pos hsafe]
        by_cases hbounds : (low.le n && n.le high) = true
        · rw [if_pos hbounds]
          rw [Bool.and_eq_true] at hbounds
          exact .of_ok hkinds
            (fits_ofNumber_iff.mpr ⟨hnan, isSafe_iff.mp hsafe, hbounds.1, hbounds.2⟩) hbeyond n
        · rw [if_neg hbounds]
          refine .of_badValue rfl hkinds (fun hfits => hbounds ?_) hbeyond
          have hn := fits_ofNumber_iff.mp hfits
          rw [hn.least, hn.most]
          rfl
      · rw [if_neg hsafe]
        refine .of_badValue rfl hkinds (fun hfits => hsafe ?_) hbeyond
        exact isSafe_iff.mpr (fits_ofNumber_iff.mp hfits).safe
    · rw [hcheck, error_bind]
      refine .of_badValue rfl hkinds (fun hfits => ?_) hbeyond
      rw [(fits_ofNumber_iff.mp hfits).notNaN] at hnan
      cases hnan
    · rw [hcheck, error_bind]
      refine .of_overflow rfl hkinds (fun hfits => ?_) hbeyond
      exact not_beyond_of_isSafe (isSafe_iff.mpr (fits_ofNumber_iff.mp hfits).safe) hbeyond

end

/-! ### Builders -/

theorem countsAs_int (k : Int) : (Value.int k).CountsAs (.int k) := ⟨.int k, rfl, rfl⟩

theorem countsAs_unbounded : Builder.unbounded.CountsAs (.float (.infinite false)) :=
  ⟨.float (.infinite false), rfl, rfl⟩

/-- A similarity is absent or a number from zero to one. -/
theorem decides_fuzzy (query similarity : Value) :
    Decides (query.IsText ∧ (similarity = .null ∨ similarity.IsNumber))
      (similarity = .null ∨ similarity.Fits (.int 0) (.int 1)) similarity.Beyond
      (Builder.fuzzy query similarity) := by
  refine .after_checkText fun text _ => ?_
  by_cases hnull : similarity = .null
  · subst hnull
    refine .of_ok (.inl rfl) (.inl rfl) ?_ _
    rintro ⟨k, hk, -⟩
    cases hk
  · have hrange := decides_checkRange (countsAs_int 0) (countsAs_int 1) (.at "similarity" 2)
      similarity
    simp only [hnull, false_or]
    exact hrange.bind_pure _

theorem decides_proximity (first second distance : Value) :
    Decides (first.IsText ∧ second.IsText ∧ distance.IsNumber)
      (distance.Fits (.int 0) (.float (.infinite false))) distance.Beyond
      (Builder.proximity first second distance) :=
  .after_checkText fun _ _ => .after_checkText fun _ _ =>
    (decides_checkRange (countsAs_int 0) countsAs_unbounded _ distance).bind_pure _

theorem decides_boost (query factor : Value) :
    Decides (query.IsText ∧ factor.IsNumber) (factor.Fits (.int 1) (.float (.infinite false)))
      factor.Beyond (Builder.boost query factor) :=
  .after_checkText fun _ _ =>
    (decides_checkRange (countsAs_int 1) countsAs_unbounded _ factor).bind_pure _

/-! ### Checks and builders together -/

/-- The check of a range and the builders with a number decide by the kinds of their arguments and
by the number alone, whatever the values are: text and numbers are what they ask for, the number
that fits is accepted, and all others are refused for their value. Only an integer that rounds to
no finite binary number is told as an overflow. -/
theorem range_checks_decide {least most : Value} {low high : Number} (hleast : least.CountsAs low)
    (hmost : most.CountsAs high) :
    (∀ argument v,
      Decides v.IsNumber (v.Fits low high) v.Beyond (checkRange least most argument v)) ∧
    (∀ query similarity,
      Decides (query.IsText ∧ (similarity = .null ∨ similarity.IsNumber))
        (similarity = .null ∨ similarity.Fits (.int 0) (.int 1)) similarity.Beyond
        (Builder.fuzzy query similarity)) ∧
    (∀ first second distance,
      Decides (first.IsText ∧ second.IsText ∧ distance.IsNumber)
        (distance.Fits (.int 0) (.float (.infinite false))) distance.Beyond
        (Builder.proximity first second distance)) ∧
    ∀ query factor,
      Decides (query.IsText ∧ factor.IsNumber) (factor.Fits (.int 1) (.float (.infinite false)))
        factor.Beyond (Builder.boost query factor) :=
  ⟨decides_checkRange hleast hmost, decides_fuzzy, decides_proximity, decides_boost⟩

/-- An integer of 310 digits rounds to no finite binary number. -/
theorem beyond_powerOfTen_309 : (Value.int (powerOfTen 309)).Beyond :=
  ⟨powerOfTen 309, rfl, by decide +kernel⟩

/-- Truth values are bounds but no numbers, and a query that is no text comes before its number. -/
theorem range_checks_decide_at_truth_values :
    ((Value.bool false).CountsAs (.int 0) ∧ (Value.bool true).CountsAs (.int 1)) ∧
      FailsWith (·.category = .overflow)
        (checkRange (.bool false) (.bool true) (.at "value" 1) (.int (powerOfTen 309))) ∧
      FailsWith (·.category = .wrongType)
        (checkRange (.bool false) (.bool true) (.at "value" 1) (.bool true)) ∧
      FailsWith (·.category = .wrongType) (Builder.boost .null (.int (powerOfTen 309))) := by
  have hleast : (Value.bool false).CountsAs (.int 0) := ⟨.bool false, rfl, rfl⟩
  have hmost : (Value.bool true).CountsAs (.int 1) := ⟨.bool true, rfl, rfl⟩
  obtain ⟨hrange, -, -, hboost⟩ := range_checks_decide hleast hmost
  refine ⟨⟨hleast, hmost⟩, ?_, ?_, ?_⟩
  · exact (hrange _ _).overflow.mpr ⟨⟨.int (powerOfTen 309), rfl⟩, beyond_powerOfTen_309⟩
  · exact (hrange _ _).wrongType.mpr (by simp [isNumber_iff, Value.number?])
  · refine (hboost _ _).wrongType.mpr fun hkinds => ?_
    obtain ⟨s, hs⟩ := hkinds.1
    cases hs

/-- Not every number that is refused is refused for its value. -/
theorem integer_refused_as_overflow : ¬∀ (v : Value) (e : ArgumentError),
    checkRange (.int 0) (.int 1) (.at "similarity" 2) v = .error e →
      e.category = .wrongType ∨ e.category = .badValue := by
  intro h
  have hrange := decides_checkRange (countsAs_int 0) (countsAs_int 1) (.at "similarity" 2)
    (.int (powerOfTen 309))
  obtain ⟨e, he, hcategory⟩ :=
    hrange.overflow.mpr ⟨⟨.int (powerOfTen 309), rfl⟩, beyond_powerOfTen_309⟩
  rcases h _ e he with hother | hother <;> exact absurd (hcategory.symm.trans hother) (by decide)

end QueryTemplates
