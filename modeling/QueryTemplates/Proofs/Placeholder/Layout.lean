import Mathlib.Tactic.MkIffOfInductiveProp
import Mathlib.Tactic.Tauto
import QueryTemplates.Placeholder.Fill
import QueryTemplates.Proofs.Number.Magnitude
import QueryTemplates.Proofs.Outcome

/-!
# Layouts with a range

Most layouts refuse a value for what it is or for how they are written. Two of them have a range
instead: a character takes the numbers of characters only, and a binary number takes the integers
that have a finite one near them. Main statement: `formatValue_failsWith_iff`, a value is out of
range exactly when it is an integer that one of these two layouts does not take.

About `SPEC_FULL.md` §11 (lines 202–203).
-/

namespace QueryTemplates

/-- The fault is that a number is out of the range of its layout. -/
def FormatError.IsRange (e : FormatError) : Prop := e.category = .overflow

namespace FormatSpec

/-- The specification asks for a character and for nothing that characters do not have. -/
@[mk_iff]
structure ShowsCharacter (spec : FormatSpec) : Prop where
  code : spec.code = 'c'
  precision : spec.precision = none
  noNegativeZero : spec.noNegativeZero = false
  sign : spec.sign = none
  alternate : spec.alternate = false

/-- The integer is out of the range of the layout. -/
def Exceeded (spec : FormatSpec) (n : Int) : Prop :=
  spec.ShowsCharacter ∧ (n < 0 ∨ 0x110000 ≤ n) ∨
    spec.code ∈ binaryCodes ∧ leastBeyond ≤ n.natAbs

end FormatSpec

/-! ### Layouts without a range -/

/-- A fault that is no range. -/
theorem failsOnly_of_category {α : Type} {e : FormatError}
    (h : e.category = .badValue ∨ e.category = .wrongType) :
    FailsOnly (¬·.IsRange) (.error e : Except FormatError α) := by
  refine .error fun hrange => ?_
  rw [FormatError.IsRange] at hrange
  rcases h with h | h <;> rw [h] at hrange <;> cases hrange

/-- A number that is read may be too long, but that is no matter of a range. -/
theorem failsOnly_readCount (value digits : Nat) (cs : List Char) :
    FailsOnly (¬·.IsRange) (readCount value digits cs) := by
  induction cs generalizing value digits with
  | nil => exact .ok _
  | cons c cs ih =>
    rw [readCount]
    split
    · exact .ok _
    · split
      · exact failsOnly_of_category (.inl rfl)
      · exact ih _ _

theorem failsOnly_readSeparator (cs : List Char) :
    FailsOnly (¬·.IsRange) (FormatSpec.readSeparator cs) := by
  unfold FormatSpec.readSeparator
  dsimp only
  split
  · exact failsOnly_of_category (.inl rfl)
  · split
    · exact failsOnly_of_category (.inl rfl)
    · exact .ok _

theorem failsOnly_readPrecision (cs : List Char) :
    FailsOnly (¬·.IsRange) (FormatSpec.readPrecision cs) := by
  unfold FormatSpec.readPrecision
  split
  · refine (failsOnly_readCount _ _ _).bind fun ⟨value, digits, rest⟩ => ?_
    dsimp only
    split
    · exact failsOnly_of_category (.inl rfl)
    · exact .ok _
  · exact .ok _

/-- A specification is refused for how it is written. -/
theorem failsOnly_read (kind : Kind) (alignment : Alignment) (code : Char) (cs : List Char) :
    FailsOnly (¬·.IsRange) (FormatSpec.read kind alignment code cs) := by
  unfold FormatSpec.read
  dsimp only
  refine (failsOnly_readCount _ _ _).bind fun ⟨width, digits, rest⟩ => ?_
  refine (failsOnly_readSeparator _).bind fun ⟨separator, rest⟩ => ?_
  refine (failsOnly_readPrecision _).bind fun ⟨precision, rest⟩ => ?_
  dsimp only
  cases separator with
  | none =>
    split
    · exact .ok _
    · exact .ok _
    · exact failsOnly_of_category (.inl rfl)
  | some separator =>
    split
    · show FailsOnly _ (ite _ _ _)
      split
      · exact failsOnly_of_category (.inl rfl)
      · exact .ok _
    · show FailsOnly _ (ite _ _ _)
      split
      · exact failsOnly_of_category (.inl rfl)
      · exact .ok _
    · exact failsOnly_of_category (.inl rfl)

theorem failsOnly_formatText (spec : FormatSpec) (s : String) :
    FailsOnly (¬·.IsRange) (formatText spec s) := by
  unfold formatText
  repeat' split
  all_goals first | exact failsOnly_of_category (.inl rfl) | exact .ok _

theorem failsOnly_formatBinary (spec : FormatSpec) (x : Binary64) :
    FailsOnly (¬·.IsRange) (formatBinary spec x) := by
  unfold formatBinary
  dsimp only
  cases spec.precision with
  | none => exact .ok _
  | some precision =>
    dsimp only
    split
    · exact failsOnly_of_category (.inl rfl)
    · exact .ok _

/-- A value may be too long to be shown, but that is no matter of a range. -/
theorem failsOnly_shownText (v : Value) : FailsOnly (¬·.IsRange) (shownText v) := by
  rw [shownText]
  split
  · exact failsOnly_of_category (.inl rfl)
  · exact .ok _

theorem failsOnly_shownLiteral (v : Value) : FailsOnly (¬·.IsRange) (shownLiteral v) := by
  rw [shownLiteral]
  split
  · exact failsOnly_of_category (.inl rfl)
  · exact .ok _

/-! ### Layouts with a range -/

/-- An integer that is shown as one is out of range when it is to be a character and is the number
of none. -/
theorem formatInteger_failsWith_iff [Objects] {spec : FormatSpec} {n : Int} :
    FailsWith (·.IsRange) (formatInteger spec n) ↔
      spec.ShowsCharacter ∧ (n < 0 ∨ 0x110000 ≤ n) := by
  have hlong : 0x110000 ≤ (powerOfTwo 63 : Int) := by decide
  have hwide : n < -(powerOfTwo 63 : Int) ∨ (powerOfTwo 63 : Int) ≤ n → n < 0 ∨ 0x110000 ≤ n := by
    omega
  unfold formatInteger
  rw [failsWith_check_iff, failsWith_check_iff]
  by_cases hcode : spec.code = 'c'
  · rw [if_pos hcode, failsWith_check_iff, failsWith_check_iff, failsWith_check_iff,
      failsWith_check_iff, iff_false_intro (not_failsWith_pure _)]
    simp only [FormatError.IsRange, FormatError.category, reduceCtorEq, and_false, false_or,
      and_true, or_false, FormatSpec.showsCharacter_iff, hcode, true_and, Bool.not_eq_true,
      Option.isSome_eq_false_iff, Option.isNone_iff_eq_none]
    tauto
  · obtain ⟨base, mark⟩ := baseOf spec.code
    rw [if_neg hcode, failsWith_check_iff, iff_false_intro (not_failsWith_pure _)]
    simp [FormatError.IsRange, FormatError.category, FormatSpec.showsCharacter_iff, hcode]

/-- An integer is out of range exactly when its layout is exceeded. -/
theorem formatWhole_failsWith_iff [Objects] {kind : Kind} {n : Int} {cs : List Char} :
    FailsWith (·.IsRange) (formatWhole kind n cs) ↔
      ∃ spec, FormatSpec.read kind .right 'd' cs = .ok spec ∧ spec.Exceeded n := by
  rw [formatWhole, failsWith_bind_iff, iff_false_intro (failsOnly_read _ _ _ _).not_failsWith,
    false_or]
  refine exists_congr fun spec => and_congr_right fun _ => ?_
  by_cases hinteger : spec.code ∈ integerCodes
  · have hbinary : spec.code ∉ binaryCodes := fun h => by
      revert hinteger h
      generalize spec.code = code
      simp only [integerCodes, binaryCodes, List.mem_cons, List.not_mem_nil, or_false]
      rintro (rfl | rfl | rfl | rfl | rfl | rfl | rfl) <;> decide
    rw [if_pos hinteger, formatInteger_failsWith_iff]
    simp [FormatSpec.Exceeded, hbinary]
  · have hshows : ¬(spec.ShowsCharacter ∧ (n < 0 ∨ 0x110000 ≤ n)) :=
      fun h => hinteger (h.1.code ▸ by decide)
    rw [if_neg hinteger, FormatSpec.Exceeded, iff_false_intro hshows, false_or]
    by_cases hbinary : spec.code ∈ binaryCodes
    · rw [if_pos hbinary, ← ofInt?_eq_none_iff]
      cases Binary64.ofInt? n with
      | none => exact iff_of_true (failsWith_error_iff.mpr rfl) ⟨hbinary, rfl⟩
      | some x => exact iff_of_false (failsOnly_formatBinary spec x).not_failsWith nofun
    · rw [if_neg hbinary]
      exact iff_of_false (failsOnly_of_category (.inl rfl)).not_failsWith fun h => hbinary h.1

/-- A truth value counts as one or zero, which every layout takes. -/
theorem not_exceeded_truth (spec : FormatSpec) (b : Bool) :
    ¬spec.Exceeded (if b then 1 else 0) := by
  have hbeyond := greatestSafe_lt_leastBeyond
  have hsafe : 1 ≤ greatestSafe := by decide
  rw [FormatSpec.Exceeded]
  cases b <;> simp <;> omega

/-- The empty specification asks for the digits. -/
theorem not_exceeded_empty {kind : Kind} {n : Int} {spec : FormatSpec}
    (h : FormatSpec.read kind .right 'd' [] = .ok spec) : ¬spec.Exceeded n := by
  obtain rfl := Except.ok.inj h
  rintro (⟨hshows, -⟩ | ⟨hcode, -⟩)
  · exact absurd hshows.code (by decide)
  · exact absurd hcode (by decide)

/-- A value is out of the range of its layout exactly when it is an integer, and is to be shown as a
character that has no such number or as a binary number that is too large for one. -/
theorem formatValue_failsWith_iff [Objects] {v : Value} {cs : List Char} :
    FailsWith (·.IsRange) (formatValue v cs) ↔
      ∃ n spec, v = .int n ∧ FormatSpec.read .int .right 'd' cs = .ok spec ∧ spec.Exceeded n := by
  have others (h : ¬FailsWith (·.IsRange) (formatValue v cs)) (hint : ∀ n, v ≠ .int n) :
      FailsWith (·.IsRange) (formatValue v cs) ↔
        ∃ n spec, v = .int n ∧ FormatSpec.read .int .right 'd' cs = .ok spec ∧ spec.Exceeded n :=
    iff_of_false h fun ⟨n, _, hn, _⟩ => hint n hn
  cases cs with
  | nil =>
    refine iff_of_false (failsOnly_shownText v).not_failsWith fun ⟨n, spec, _, hread, h⟩ => ?_
    exact not_exceeded_empty hread h
  | cons c cs =>
    cases v with
    | scalar s =>
      cases s with
      | int n =>
        refine formatWhole_failsWith_iff.trans ?_
        simp
      | bool b =>
        have hfits : ¬FailsWith (·.IsRange) (formatWhole .bool (if b then 1 else 0) (c :: cs)) := by
          rw [formatWhole_failsWith_iff]
          rintro ⟨spec, -, h⟩
          exact not_exceeded_truth spec b h
        exact others hfits (by simp)
      | str s =>
        refine others (FailsOnly.not_failsWith ?_) (by simp)
        refine (failsOnly_read _ _ _ _).bind fun spec => ?_
        split
        · exact failsOnly_formatText spec s
        · exact failsOnly_of_category (.inl rfl)
      | float x =>
        refine others (FailsOnly.not_failsWith ?_) (by simp)
        refine (failsOnly_read _ _ _ _).bind fun spec => ?_
        split
        · exact failsOnly_formatBinary spec x
        · exact failsOnly_of_category (.inl rfl)
      | date d => exact others (not_failsWith_ok _) (by simp)
      | datetime t => exact others (not_failsWith_ok _) (by simp)
      | null => exact others (failsOnly_of_category (.inr rfl)).not_failsWith (by simp)
      | bytes bs => exact others (failsOnly_of_category (.inr rfl)).not_failsWith (by simp)
    | _ => exact others (failsOnly_of_category (.inr rfl)).not_failsWith (by simp)

section

variable [Objects] {found : Reached} {cs : List Char}

/-- What was found is out of the range of its layout exactly when it is such an integer: an object
that is no data takes no specification and has no range. -/
theorem format_failsWith_iff :
    FailsWith (·.IsRange) (found.format cs) ↔
      ∃ n spec, found = .value (.int n) ∧ FormatSpec.read .int .right 'd' cs = .ok spec ∧
        spec.Exceeded n := by
  cases found with
  | value v =>
    rw [Found.format, formatValue_failsWith_iff]
    simp only [Found.value.injEq]
  | object o =>
    refine iff_of_false ?_ fun ⟨_, _, hfound, _⟩ => by cases hfound
    rw [Found.format]
    split
    · exact not_failsWith_ok _
    · exact (failsOnly_of_category (.inr rfl)).not_failsWith

/-- Whatever was found can be shown without a range. -/
theorem failsOnly_foundText (found : Reached) : FailsOnly (¬·.IsRange) found.shownText := by
  cases found with
  | value v => exact failsOnly_shownText v
  | object o => exact .ok _

/-- So can its literal. -/
theorem failsOnly_foundLiteral (found : Reached) : FailsOnly (¬·.IsRange) found.shownLiteral := by
  cases found with
  | value v => exact failsOnly_shownLiteral v
  | object o => exact .ok _

end

end QueryTemplates
