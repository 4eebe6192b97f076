import QueryTemplates.Proofs.Number.Range
import QueryTemplates.Proofs.Number.Written

/-!
# Numbers behind suffix marks

A number that is accepted is written behind its mark as a numeral of the query syntax, digits with
perhaps a point and more digits behind it, unless it is greater than zero and less than one part in
ten thousand: such a number is written with a power of ten. In either form the text tells the exact
number. Main statements: `plainNumeral_suffix_iff` and `suffix_eq_iff`.

About `SPEC_FULL.md` §3 (lines 47–48).
-/

namespace QueryTemplates

/-- A numeral of the query syntax. -/
inductive PlainNumeral : List Char → Prop
  | whole {digits : List Char} (hdigits : IsDigits digits) : PlainNumeral digits
  | point {whole fraction : List Char} (hwhole : IsDigits whole) (hfraction : IsDigits fraction) :
    PlainNumeral (whole ++ '.' :: fraction)

/-- A numeral with a negative power of ten. -/
inductive PowerNumeral : List Char → Prop
  | intro {mantissa exponent : List Char} (hmantissa : PlainNumeral mantissa)
    (hexponent : IsDigits exponent) : PowerNumeral (mantissa ++ 'e' :: '-' :: exponent)

/-- The number is greater than zero and less than one part in ten thousand. -/
def Number.Tiny (n : Number) : Prop :=
  ∃ units, n.level? = some (.units units) ∧ 0 < units ∧ units * 10000 < unitsPerOne

/-- A plain numeral has no exponent. -/
theorem PlainNumeral.notMem {cs : List Char} (h : PlainNumeral cs) : 'e' ∉ cs := by
  have hletter : 'e'.isDigit = false := rfl
  cases h with
  | whole hdigits => exact hdigits.notMem hletter
  | point hwhole hfraction => simp [hwhole.notMem hletter, hfraction.notMem hletter]

/-- A plain numeral has characters. -/
theorem PlainNumeral.ne_nil {cs : List Char} (h : PlainNumeral cs) : cs ≠ [] := by
  cases h with
  | whole hdigits => exact hdigits.ne_nil
  | point => simp

/-- A numeral with a power has characters. -/
theorem PowerNumeral.ne_nil {cs : List Char} (h : PowerNumeral cs) : cs ≠ [] := by
  cases h with
  | intro => simp

theorem PowerNumeral.not_plainNumeral {cs : List Char} (h : PowerNumeral cs) :
    ¬PlainNumeral cs := by
  cases h with
  | intro => exact fun hplain => hplain.notMem (by simp)

/-! ### Magnitudes that are written with a point -/

/-- A fraction is below a ten thousandth when the product is below the denominator. -/
theorem div_lt_tenThousandth_iff {num den : Nat} (hden : 0 < den) :
    (num : ℚ) / den < 10 ^ (-4 : Int) ↔ num * 10000 < den := by
  have hten : (10 : ℚ) ^ (-4 : Int) = 1 / 10000 := by norm_num
  rw [hten, div_lt_div_iff₀ (Nat.cast_pos.mpr hden) (by norm_num), one_mul]
  norm_cast

/-- Units tell whether a magnitude is below a ten thousandth. -/
theorem magnitude_lt_tenThousandth_iff {rank : Nat} :
    magnitude rank < 10 ^ (-4 : Int) ↔ rankUnits rank * 10000 < unitsPerOne :=
  div_lt_tenThousandth_iff unitsPerOne_pos

/-- The rank of the least magnitude that is written without a power of ten. -/
def leastPositional : Nat := 0x3F1A36E2EB1C432D

/-- The magnitude at this rank is the nearest one to a part in ten thousand, and is written so. -/
theorem shortest_leastPositional : Decimal.shortest leastPositional = ⟨['1'], -3⟩ := by
  decide +kernel

/-- The midpoint below the least positional number is below a ten thousandth. -/
theorem midpoint_lt_tenThousandth : midpoint (leastPositional - 1) < 10 ^ (-4 : Int) := by
  rw [← Decimal.midpoint_eq_div,
    div_lt_tenThousandth_iff (Nat.mul_pos (by decide) unitsPerOne_pos)]
  decide +kernel

/-- The least positional number is not below a ten thousandth. -/
theorem tenThousandth_le_magnitude : 10 ^ (-4 : Int) ≤ magnitude leastPositional := by
  rw [← not_lt, magnitude_lt_tenThousandth_iff]
  decide +kernel

/-- A magnitude is less than a part in ten thousand where its rank says so. -/
theorem magnitude_lt_iff_rank {rank : Nat} :
    magnitude rank < 10 ^ (-4 : Int) ↔ rank < leastPositional := by
  constructor
  · intro h
    exact magnitude_strictMono.lt_iff_lt.mp (h.trans_le tenThousandth_le_magnitude)
  · intro h
    calc magnitude rank < midpoint rank := magnitude_lt_midpoint rank
      _ ≤ midpoint (leastPositional - 1) := midpoint_strictMono.monotone (by omega)
      _ < 10 ^ (-4 : Int) := midpoint_lt_tenThousandth

/-- The digits of a magnitude stand for less than a part in ten thousand when it is less. -/
theorem value_shortest_lt_iff {rank : Nat} (h : rank ≠ 0) :
    (Decimal.shortest rank).value < 10 ^ (-4 : Int) ↔ rank < leastPositional := by
  have hreads := Decimal.readsBack_shortest h
  have hleast : (Decimal.shortest leastPositional).value = 10 ^ (-4 : Int) := by
    rw [shortest_leastPositional]
    simp [Decimal.value, Nat.ofDigitChars_cons]
  have hreadsLeast : ReadsBack leastPositional (10 ^ (-4 : Int)) :=
    hleast ▸ Decimal.readsBack_shortest (by simp [leastPositional])
  constructor
  · intro hlt
    by_contra hle
    rcases Nat.eq_or_lt_of_le (Nat.le_of_not_lt hle) with heq | hgt
    · rw [← heq, hleast] at hlt
      exact lt_irrefl _ hlt
    · exact lt_asymm hlt (hreadsLeast.lt hreads hgt)
  · exact fun hlt => hreads.lt hreadsLeast hlt

/-- The rank from which on the integers have no distinct magnitudes. -/
def leastUnsafe : Nat := 0x4340000000000000

/-- The least unsafe magnitude is the power of two behind the greatest safe integer. -/
theorem magnitude_leastUnsafe : magnitude leastUnsafe = 2 ^ 53 := by
  have hrun : leastUnsafe = powerOfTwo 52 * (1075 + 1) + 0 := by decide
  have hunits : rankUnits leastUnsafe = powerOfTwo 53 * unitsPerOne := by
    rw [hrun, rankUnits_of_run (powerOfTwo_pos 52), Nat.add_zero, unitsPerOne, ← powerOfTwo_add,
      ← powerOfTwo_add]
  rw [magnitude, hunits, Nat.cast_mul, mul_div_cancel_right₀ _ unitsPerOne_cast_pos.ne']
  exact Nat.cast_pow 2 53

/-- The digits of a magnitude below `2 ^ 53` are written with a point, unless it is less than a part
in ten thousand. -/
theorem positional_shortest_iff {rank : Nat} (h : rank ≠ 0) (hsafe : magnitude rank < 2 ^ 53) :
    (Decimal.shortest rank).Positional ↔ ¬magnitude rank < 10 ^ (-4 : Int) := by
  obtain ⟨hlow, hhigh⟩ := Decimal.value_shortest_bounds h
  rw [magnitude_lt_iff_rank, ← value_shortest_lt_iff h]
  have hpoint : (Decimal.shortest rank).point ≤ 16 := by
    have hrank : rank < leastUnsafe := by
      rw [← magnitude_leastUnsafe] at hsafe
      exact magnitude_strictMono.lt_iff_lt.mp hsafe
    have hvalue : (Decimal.shortest rank).value < 10 ^ (16 : Int) :=
      calc (Decimal.shortest rank).value
          ≤ midpoint rank := (Decimal.readsBack_shortest h).le_midpoint
        _ < magnitude (rank + 1) := midpoint_lt_magnitude rank
        _ ≤ magnitude leastUnsafe := magnitude_strictMono.monotone hrank
        _ = 2 ^ 53 := magnitude_leastUnsafe
        _ < 10 ^ (16 : Int) := by norm_num
    have := ten_zpow_lt_iff.mp (hlow.trans_lt hvalue)
    omega
  constructor
  · intro hpositional hlt
    have := ten_zpow_lt_iff.mp (hlow.trans_lt hlt)
    have := hpositional.1
    omega
  · intro hle
    have := ten_zpow_lt_iff.mp ((not_lt.mp hle).trans_lt hhigh)
    exact ⟨this, hpoint⟩

/-! ### What stands behind a mark -/

/-- How a number that is not negative is written, by its units. -/
inductive SuffixOf : Nat → List Char → Prop
  /-- A whole number is written by its digits. -/
  | whole (k : Nat) : SuffixOf (k * unitsPerOne) (Nat.toDigits 10 k)
  /-- A number between the integers is written as the magnitude that it is. -/
  | between {rank : Nat} (hpart : rankUnits rank % unitsPerOne ≠ 0) :
    SuffixOf (rankUnits rank) (Layout.plain false (Decimal.shortest rank))

theorem toList_suffix_int (k : Nat) : (Number.int k).suffix.toList = Nat.toDigits 10 k :=
  Nat.toList_repr

/-- A finite number that is not negative has the units of its magnitude, zero of either sign. -/
theorem signedUnits_of_nonneg {negative : Bool} {rank : Fin rankCount}
    (h : 0 ≤ Binary64.signedUnits negative rank) :
    Binary64.signedUnits negative rank = rankUnits rank := by
  cases negative with
  | false => rfl
  | true =>
    rw [Binary64.signedUnits, if_pos rfl] at h ⊢
    omega

/-- A number of negative sign that is not negative is zero. -/
theorem rankUnits_eq_zero {rank : Fin rankCount} (h : 0 ≤ Binary64.signedUnits true rank) :
    rankUnits rank = 0 := by
  rw [Binary64.signedUnits, if_pos rfl] at h
  omega

/-- A binary number that is not negative is an integer when its units make one. -/
theorem toInt?_of_nonneg {negative : Bool} {rank : Fin rankCount}
    (h : 0 ≤ Binary64.signedUnits negative rank) :
    (Binary64.finite negative rank).toInt? =
      if rankUnits rank % unitsPerOne = 0 then some ((rankUnits rank / unitsPerOne : Nat) : Int)
      else none := by
  rw [Binary64.toInt?]
  cases negative with
  | false => rfl
  | true =>
    rw [rankUnits_eq_zero h]
    -- the units of one stay as they are: they are too many to be counted out
    generalize unitsPerOne = one
    simp

/-- Every number from zero on has units, and these tell what stands behind the mark. -/
theorem exists_suffixOf {n : Number} {most : Int} (h : n.Within 0 most) :
    ∃ units : Nat, n.level? = some (.units units) ∧ SuffixOf units n.suffix.toList := by
  obtain ⟨units, hunits, hleast, -⟩ := h
  rw [Int.zero_mul] at hleast
  cases n with
  | int k =>
    obtain rfl := Level.units.inj (Option.some.inj hunits)
    have hk : 0 ≤ k := nonneg_of_mul_nonneg_left hleast (Int.natCast_pos.mpr unitsPerOne_pos)
    obtain ⟨k, rfl⟩ := Int.eq_ofNat_of_zero_le hk
    refine ⟨k * unitsPerOne, by rw [level?_int, Int.natCast_mul], ?_⟩
    rw [toList_suffix_int]
    exact .whole k
  | float x =>
    cases x with
    | nan payload => cases hunits
    | infinite negative => cases negative <;> cases hunits
    | finite negative rank =>
      obtain rfl := Level.units.inj (Option.some.inj hunits)
      refine ⟨rankUnits rank, ?_, ?_⟩
      · rw [← signedUnits_of_nonneg hleast]
        rfl
      · rw [Number.suffix, toInt?_of_nonneg hleast]
        by_cases hpart : rankUnits rank % unitsPerOne = 0
        · rw [if_pos hpart]
          have hwhole := SuffixOf.whole (rankUnits rank / unitsPerOne)
          rw [Nat.div_mul_cancel (Nat.dvd_of_mod_eq_zero hpart), ← toList_suffix_int] at hwhole
          exact hwhole
        · rw [if_neg hpart]
          have hpositive : negative = false := by
            cases negative with
            | false => rfl
            | true => exact absurd (by rw [rankUnits_eq_zero hleast, Nat.zero_mod]) hpart
          subst hpositive
          rw [Binary64.text, String.toList_ofList]
          exact .between hpart

/-! ### Numerals -/

theorem plainNumeral_mantissa {digits : List Char} (h : IsDigits digits) :
    PlainNumeral (Decimal.mantissa digits) := by
  unfold Decimal.mantissa
  split
  · next first second rest =>
    have hfirst : IsDigits [first] := ⟨by simp, fun c hc => h.isDigit c (by simp_all)⟩
    have hrest : IsDigits (second :: rest) :=
      ⟨by simp, fun c hc => h.isDigit c (List.mem_cons_of_mem _ hc)⟩
    exact .point hfirst hrest
  · exact .whole h

theorem exponentText_of_neg {exponent : Int} (h : exponent < 0) :
    ∃ digits, Layout.exponentText exponent = 'e' :: '-' :: digits ∧ IsDigits digits := by
  have hdigits := isDigits_toDigits exponent.natAbs
  refine ⟨_, by rw [Layout.exponentText, if_pos h], ?_⟩
  split
  · exact ⟨by simp, by simpa using hdigits.isDigit⟩
  · exact hdigits

theorem ne_zero_of_part {rank : Nat} (h : rankUnits rank % unitsPerOne ≠ 0) : rank ≠ 0 := by
  rintro rfl
  exact h (by rw [rankUnits_zero, Nat.zero_mod])

/-- Safe units make a magnitude below the least unsafe one. -/
theorem magnitude_lt_of_units {rank : Nat} (h : rankUnits rank ≤ greatestSafe * unitsPerOne) :
    magnitude rank < 2 ^ 53 :=
  calc magnitude rank ≤ greatestSafe := by
        rw [magnitude, div_le_iff₀ unitsPerOne_cast_pos]
        exact_mod_cast h
    _ < 2 ^ 53 := (Nat.cast_lt.mpr (by decide)).trans_eq (Nat.cast_pow 2 53)

namespace SuffixOf

variable {units units' : Nat} {text text' : List Char}

theorem plainNumeral (h : SuffixOf units text) (hsafe : units ≤ greatestSafe * unitsPerOne)
    (htiny : ¬(0 < units ∧ units * 10000 < unitsPerOne)) : PlainNumeral text := by
  cases h with
  | whole k => exact .whole (isDigits_toDigits k)
  | @between rank hpart =>
    have hunits : 0 < rankUnits rank := Nat.pos_of_ne_zero fun hzero => hpart (by simp [hzero])
    have hle : ¬magnitude rank < 10 ^ (-4 : Int) := by
      rw [magnitude_lt_tenThousandth_iff]
      exact fun hlt => htiny ⟨hunits, hlt⟩
    have hpositional :=
      (positional_shortest_iff (ne_zero_of_part hpart) (magnitude_lt_of_units hsafe)).mpr hle
    have hdigits := Decimal.allDigits_shortest rank
    rw [Decimal.plain_of_positional hpositional]
    exact .point (Decimal.isDigits_wholeDigits hdigits) (Decimal.isDigits_fractionDigits hdigits)

theorem powerNumeral (h : SuffixOf units text) (hsafe : units ≤ greatestSafe * unitsPerOne)
    (hpos : 0 < units) (hlt : units * 10000 < unitsPerOne) : PowerNumeral text := by
  cases h with
  | whole k =>
    have hle : unitsPerOne ≤ k * unitsPerOne :=
      Nat.le_mul_of_pos_left _ (Nat.pos_of_mul_pos_right hpos)
    omega
  | @between rank hpart =>
    have hrank := ne_zero_of_part hpart
    have hmagnitude := magnitude_lt_tenThousandth_iff.mpr hlt
    have hpositional : ¬(Decimal.shortest rank).Positional := fun hpositional =>
      (positional_shortest_iff hrank (magnitude_lt_of_units hsafe)).mp hpositional hmagnitude
    have hpoint : (Decimal.shortest rank).point - 1 < -4 :=
      ten_zpow_lt_iff.mp ((Decimal.value_shortest_bounds hrank).1.trans_lt
        ((value_shortest_lt_iff hrank).mpr (magnitude_lt_iff_rank.mp hmagnitude)))
    have hdigits : IsDigits (Decimal.shortest rank).digits :=
      ⟨digits_shortest_ne_nil hrank, Decimal.allDigits_shortest rank⟩
    obtain ⟨exponent, htail, hexponent⟩ := exponentText_of_neg (hpoint.trans (by decide))
    rw [Decimal.plain_of_not_positional hpositional hdigits.ne_nil, htail]
    exact .intro (plainNumeral_mantissa hdigits) hexponent

/-- A number between the integers has a point or a letter in its text. -/
theorem not_isDigits_plain {rank : Nat} (h : rank ≠ 0) :
    ¬IsDigits (Layout.plain false (Decimal.shortest rank)) := by
  intro hdigits
  by_cases hpositional : (Decimal.shortest rank).Positional
  · rw [Decimal.plain_of_positional hpositional] at hdigits
    have hpoint := hdigits.notMem (show '.'.isDigit = false from rfl)
    simp at hpoint
  · have hletter := (Decimal.mem_plain_iff (Decimal.allDigits_shortest rank)
      (digits_shortest_ne_nil h)).mpr hpositional
    exact hdigits.notMem rfl hletter

theorem toDigits_inj {k l : Nat} : Nat.toDigits 10 k = Nat.toDigits 10 l ↔ k = l := by
  constructor
  · intro h
    calc k = Nat.ofDigitChars 10 (Nat.toDigits 10 k) 0 := Nat.ofDigitChars_ten_toDigits.symm
      _ = l := by rw [h, Nat.ofDigitChars_ten_toDigits]
  · exact congrArg _

/-- Two numbers are written alike when they have as many units. -/
theorem text_eq_iff (h : SuffixOf units text) (h' : SuffixOf units' text') :
    text = text' ↔ units = units' := by
  -- a whole number differs from one between the integers in its text and in its units
  have hapart {k rank : Nat} (hpart : rankUnits rank % unitsPerOne ≠ 0) :
      Nat.toDigits 10 k ≠ Layout.plain false (Decimal.shortest rank) ∧
        k * unitsPerOne ≠ rankUnits rank := by
    constructor
    · intro heq
      exact not_isDigits_plain (ne_zero_of_part hpart) (heq ▸ isDigits_toDigits k)
    · intro heq
      exact hpart (by rw [← heq, Nat.mul_mod_left])
  cases h with
  | whole k =>
    cases h' with
    | whole k' => rw [toDigits_inj, Nat.mul_left_inj unitsPerOne_pos.ne']
    | between hpart' => exact iff_of_false (hapart hpart').1 (hapart hpart').2
  | between hpart =>
    cases h' with
    | whole k' => exact iff_of_false (hapart hpart).1.symm (hapart hpart).2.symm
    | between hpart' =>
      rw [rankUnits_strictMono.injective.eq_iff]
      constructor
      · exact rank_eq_of_plain_eq (ne_zero_of_part hpart) (ne_zero_of_part hpart')
      · rintro rfl
        rfl

end SuffixOf

section

variable {n m : Number} {most most' : Int}

/-- A number that is accepted is written as a numeral, with a power of ten where it is tiny. -/
theorem numeral_suffix (h : n.Within 0 greatestSafe) :
    (¬n.Tiny → PlainNumeral n.suffix.toList) ∧ (n.Tiny → PowerNumeral n.suffix.toList) := by
  obtain ⟨units, hlevel, hsuffix⟩ := exists_suffixOf h
  have htiny : n.Tiny ↔ 0 < units ∧ units * 10000 < unitsPerOne := by
    simp only [Number.Tiny, hlevel, Option.some.injEq, Level.units.injEq, exists_eq_left',
      Int.natCast_pos]
    norm_cast
  have hsafe : units ≤ greatestSafe * unitsPerOne := by
    obtain ⟨units', hlevel', -, hmost⟩ := h
    obtain rfl := Level.units.inj (Option.some.inj (hlevel.symm.trans hlevel'))
    exact_mod_cast hmost
  rw [htiny]
  exact ⟨hsuffix.plainNumeral hsafe, fun ⟨hpos, hlt⟩ => hsuffix.powerNumeral hsafe hpos hlt⟩

/-- A number is written plainly exactly when it is not tiny. -/
theorem plainNumeral_suffix_iff (h : n.Within 0 greatestSafe) :
    PlainNumeral n.suffix.toList ↔ ¬n.Tiny := by
  obtain ⟨hplain, hpower⟩ := numeral_suffix h
  exact ⟨fun hnumeral htiny => (hpower htiny).not_plainNumeral hnumeral, hplain⟩

/-- A number is written with a power exactly when it is tiny. -/
theorem powerNumeral_suffix_iff (h : n.Within 0 greatestSafe) :
    PowerNumeral n.suffix.toList ↔ n.Tiny := by
  obtain ⟨hplain, hpower⟩ := numeral_suffix h
  constructor
  · intro hnumeral
    by_contra htiny
    exact hnumeral.not_plainNumeral (hplain htiny)
  · exact hpower

theorem suffix_ne_nil (h : n.Within 0 greatestSafe) : n.suffix.toList ≠ [] := by
  obtain ⟨hplain, hpower⟩ := numeral_suffix h
  by_cases htiny : n.Tiny
  · exact (hpower htiny).ne_nil
  · exact (hplain htiny).ne_nil

/-- Numbers are written alike when they are equal by exact value, and only then. -/
theorem suffix_eq_iff (h : n.Within 0 most) (h' : m.Within 0 most') :
    n.suffix = m.suffix ↔ n.same m = true := by
  obtain ⟨units, hlevel, hsuffix⟩ := exists_suffixOf h
  obtain ⟨units', hlevel', hsuffix'⟩ := exists_suffixOf h'
  rw [← String.toList_inj, hsuffix.text_eq_iff hsuffix', Number.same, hlevel, hlevel']
  simp

end

end QueryTemplates
