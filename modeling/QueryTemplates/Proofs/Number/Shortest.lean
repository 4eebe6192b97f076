import Mathlib.Algebra.Order.Field.Power
import Mathlib.Data.List.TakeWhile
import QueryTemplates.Number.Decimal
import QueryTemplates.Proofs.Number.Rank

/-!
# The fewest digits that read back

The digits that are written for a magnitude stand for a value that reads back as it: that is how
they are chosen, and seventeen digits are always enough to find such a value. So the values of two
different magnitudes are different. Main statements: `Decimal.readsBack_shortest` and
`Decimal.value_shortest_bounds`, which says where the point of the digits is.

About `SPEC_FULL.md` §3 (lines 47–48).
-/

namespace QueryTemplates

/-! ### Powers of ten -/

theorem ten_zpow_pos (exponent : Int) : (0 : ℚ) < 10 ^ exponent := zpow_pos (by norm_num) exponent

theorem ten_zpow_add (m n : Int) : (10 : ℚ) ^ (m + n) = 10 ^ m * 10 ^ n :=
  zpow_add₀ (by norm_num) m n

theorem ten_zpow_lt_iff {m n : Int} : (10 : ℚ) ^ m < 10 ^ n ↔ m < n :=
  zpow_lt_zpow_iff_right₀ (by norm_num)

/-- A power of ten is the same over the rationals. -/
theorem cast_powerOfTen (n : Nat) : (powerOfTen n : ℚ) = 10 ^ (n : Int) := by
  rw [powerOfTen, Nat.pow_eq, Nat.cast_pow, zpow_natCast]
  rfl

/-- A number is less than the power of ten of the count of its digits. -/
theorem lt_powerOfTen_length (n : Nat) : n < powerOfTen (Nat.toDigits 10 n).length :=
  (Nat.length_toDigits_le_iff (by decide) Nat.length_toDigits_pos).mp (Nat.le_refl _)

/-- A number that is not zero has no digits more than it needs. -/
theorem powerOfTen_length_le {n : Nat} (h : n ≠ 0) :
    powerOfTen ((Nat.toDigits 10 n).length - 1) ≤ n := by
  by_cases hone : (Nat.toDigits 10 n).length = 1
  · rw [hone]
    exact Nat.one_le_iff_ne_zero.mpr h
  · have hpos : 0 < (Nat.toDigits 10 n).length := Nat.length_toDigits_pos
    apply Nat.le_of_not_lt
    intro hlt
    have := (Nat.length_toDigits_le_iff (by decide) (by omega)).mpr hlt
    omega

/-- The digits of a quotient tell how many times larger the one number is. -/
theorem length_div_bounds {a b : Nat} (hb : 0 < b) (h : b ≤ a) :
    powerOfTen ((Nat.toDigits 10 (a / b)).length - 1) * b ≤ a ∧
      a < powerOfTen (Nat.toDigits 10 (a / b)).length * b := by
  constructor
  · rw [← Nat.le_div_iff_mul_le hb]
    exact powerOfTen_length_le (Nat.ne_of_gt (Nat.div_pos h hb))
  · rw [← Nat.div_lt_iff_lt_mul hb]
    exact lt_powerOfTen_length (a / b)

namespace Decimal

/-! ### The value of digits -/

/-- The value that the digits stand for. -/
def value (d : Decimal) : ℚ :=
  Nat.ofDigitChars 10 d.digits 0 * 10 ^ (d.point - d.digits.length)

theorem value_ofScaled (coefficient : Nat) (exponent : Int) :
    (ofScaled coefficient exponent).value = coefficient * 10 ^ exponent := by
  simp [value, ofScaled, Nat.ofDigitChars_ten_toDigits]

/-- The point stands behind the first digit of the value. -/
theorem value_ofScaled_bounds {coefficient : Nat} (h : coefficient ≠ 0) (exponent : Int) :
    (10 : ℚ) ^ ((ofScaled coefficient exponent).point - 1)
        ≤ (ofScaled coefficient exponent).value ∧
      (ofScaled coefficient exponent).value
        < (10 : ℚ) ^ (ofScaled coefficient exponent).point := by
  have hpos : 0 < (Nat.toDigits 10 coefficient).length := Nat.length_toDigits_pos
  have hlow : ((powerOfTen ((Nat.toDigits 10 coefficient).length - 1) : Nat) : ℚ) ≤ coefficient :=
    Nat.cast_le.mpr (powerOfTen_length_le h)
  have hhigh : (coefficient : ℚ) < (powerOfTen (Nat.toDigits 10 coefficient).length : Nat) :=
    Nat.cast_lt.mpr (lt_powerOfTen_length coefficient)
  rw [cast_powerOfTen] at hlow hhigh
  rw [value_ofScaled]
  have hpoint : (ofScaled coefficient exponent).point
      = (Nat.toDigits 10 coefficient).length + exponent := rfl
  rw [hpoint]
  constructor
  · rw [show ((Nat.toDigits 10 coefficient).length + exponent - 1 : Int)
      = ((Nat.toDigits 10 coefficient).length - 1 : Nat) + exponent by omega, ten_zpow_add]
    exact mul_le_mul_of_nonneg_right hlow (ten_zpow_pos _).le
  · rw [ten_zpow_add]
    exact mul_lt_mul_of_pos_right hhigh (ten_zpow_pos _)

/-- What is trimmed away are zeros. -/
theorem exists_digits_eq_trimmed (d : Decimal) :
    ∃ zeros, d.digits = d.trimmed.digits ++ List.replicate zeros '0' := by
  refine ⟨(d.digits.reverse.takeWhile (· == '0')).length, ?_⟩
  have hzeros : d.digits.reverse.takeWhile (· == '0')
      = List.replicate (d.digits.reverse.takeWhile (· == '0')).length '0' := by
    rw [List.eq_replicate_iff]
    exact ⟨rfl, fun c hc => by simpa using List.mem_takeWhile_imp hc⟩
  rw [← List.reverse_inj, List.reverse_append, List.reverse_replicate, ← hzeros, trimmed,
    List.reverse_reverse, List.takeWhile_append_dropWhile]

/-- Zeros behind digits multiply their value by a power of ten. -/
theorem ofDigitChars_append_zeros (digits : List Char) (zeros : Nat) :
    Nat.ofDigitChars 10 (digits ++ List.replicate zeros '0') 0
      = powerOfTen zeros * Nat.ofDigitChars 10 digits 0 := by
  rw [Nat.ofDigitChars_append, Nat.ofDigitChars_replicate_zero]
  rfl

theorem value_trimmed (d : Decimal) : d.trimmed.value = d.value := by
  obtain ⟨zeros, hzeros⟩ := d.exists_digits_eq_trimmed
  have hpoint : d.trimmed.point = d.point := rfl
  rw [value, value, hpoint, hzeros, ofDigitChars_append_zeros, List.length_append,
    List.length_replicate, Nat.cast_mul, cast_powerOfTen, mul_right_comm, ← ten_zpow_add,
    mul_comm ((10 : ℚ) ^ _)]
  congr 2
  omega

/-! ### Fractions on the grid of a power of ten -/

/-- The point of a fraction stands behind its first digit. -/
theorem pointOf_bounds {num den : Nat} (hnum : 0 < num) (hden : 0 < den) :
    (10 : ℚ) ^ (pointOf num den - 1) ≤ (num : ℚ) / den ∧
      (num : ℚ) / den < (10 : ℚ) ^ pointOf num den := by
  have hden' : (0 : ℚ) < den := Nat.cast_pos.mpr hden
  unfold pointOf
  by_cases h : den ≤ num
  · rw [if_pos h]
    obtain ⟨hlow, hhigh⟩ := length_div_bounds hden h
    have hpos : 0 < (Nat.toDigits 10 (num / den)).length := Nat.length_toDigits_pos
    rw [le_div_iff₀ hden', div_lt_iff₀ hden', ← Nat.cast_one, ← Int.ofNat_sub hpos,
      ← cast_powerOfTen, ← cast_powerOfTen]
    exact ⟨by exact_mod_cast hlow, by exact_mod_cast hhigh⟩
  · rw [if_neg h]
    have hpos : 0 < (Nat.toDigits 10 ((den - 1) / num)).length := Nat.length_toDigits_pos
    obtain ⟨hhigh, hlow⟩ := length_div_bounds hnum (show num ≤ den - 1 by omega)
    generalize (Nat.toDigits 10 ((den - 1) / num)).length = length at *
    constructor
    · have hle : den ≤ powerOfTen length * num := by omega
      rw [show (1 - (length : Int) - 1) = -(length : Int) by omega, zpow_neg, ← cast_powerOfTen,
        inv_le_iff_one_le_mul₀ (by exact_mod_cast powerOfTen_pos length), div_mul_eq_mul_div,
        one_le_div hden', mul_comm]
      exact_mod_cast hle
    · have hlt : powerOfTen (length - 1) * num < den := by omega
      rw [show (1 - (length : Int)) = -((length - 1 : Nat) : Int) by omega, zpow_neg,
        ← cast_powerOfTen, lt_inv_comm₀ (by positivity) (by exact_mod_cast powerOfTen_pos _),
        inv_div, lt_div_iff₀ (by exact_mod_cast hnum)]
      exact_mod_cast hlt

/-- A fraction is a count of steps of a power of ten. -/
structure Scaled (v : ℚ) (exponent : Int) (num step : Nat) : Prop where
  step_pos : 0 < step
  eq : v = (num : ℚ) / step * 10 ^ exponent

/-- A fraction and a grid of powers of ten become integers of one scale. -/
theorem scaled_rescale (num : Nat) {den : Nat} (hden : 0 < den) (exponent : Int) :
    Scaled ((num : ℚ) / den) exponent (rescale num den exponent).1
      (rescale num den exponent).2 := by
  have hden' : (den : ℚ) ≠ 0 := Nat.cast_ne_zero.mpr (Nat.ne_of_gt hden)
  unfold rescale
  by_cases h : 0 ≤ exponent
  · rw [if_pos h]
    refine ⟨Nat.mul_pos hden (powerOfTen_pos _), ?_⟩
    have hpower := ten_zpow_pos exponent
    rw [Nat.cast_mul, cast_powerOfTen, Int.toNat_of_nonneg h]
    field_simp
  · rw [if_neg h]
    refine ⟨hden, ?_⟩
    have hpower : (10 : ℚ) ^ (-exponent) * 10 ^ exponent = 1 := by
      rw [← ten_zpow_add, neg_add_cancel, zpow_zero]
    rw [Nat.cast_mul, cast_powerOfTen, Int.toNat_of_nonneg (by omega), div_mul_eq_mul_div,
      mul_assoc, hpower, mul_one]

/-- The step of the grid does not depend on the numerator. -/
theorem rescale_snd (num num' den : Nat) (exponent : Int) :
    (rescale num den exponent).2 = (rescale num' den exponent).2 := by
  unfold rescale
  split <;> rfl

namespace Scaled

variable {v : ℚ} {exponent : Int} {num step : Nat}

/-- Whether a value is below a point of the grid is told by integers. -/
theorem le_iff (h : Scaled v exponent num step) (count : Nat) :
    v ≤ count * 10 ^ exponent ↔ num ≤ count * step := by
  have hstep : (0 : ℚ) < step := Nat.cast_pos.mpr h.step_pos
  rw [h.eq, mul_le_mul_iff_left₀ (ten_zpow_pos exponent), div_le_iff₀ hstep, ← Nat.cast_mul,
    Nat.cast_le]

theorem ge_iff (h : Scaled v exponent num step) (count : Nat) :
    count * 10 ^ exponent ≤ v ↔ count * step ≤ num := by
  have hstep : (0 : ℚ) < step := Nat.cast_pos.mpr h.step_pos
  rw [h.eq, mul_le_mul_iff_left₀ (ten_zpow_pos exponent), le_div_iff₀ hstep, ← Nat.cast_mul,
    Nat.cast_le]

theorem lt_iff (h : Scaled v exponent num step) (count : Nat) :
    v < count * 10 ^ exponent ↔ num < count * step := by
  rw [← not_le, h.ge_iff, Nat.not_le]

theorem gt_iff (h : Scaled v exponent num step) (count : Nat) :
    count * 10 ^ exponent < v ↔ count * step < num := by
  rw [← not_le, h.le_iff, Nat.not_le]

end Scaled

/-! ### Candidates -/

/-- The exponent of the grid on which numbers near a magnitude have `count` digits. -/
def gridExponent (rank count : Nat) : Int := pointOf (rankUnits rank) unitsPerOne - count

/-- The units of a magnitude and of its midpoints as fractions of two ones. -/
theorem magnitude_eq_div (rank : Nat) :
    ((2 * rankUnits rank : Nat) : ℚ) / (2 * unitsPerOne : Nat) = magnitude rank := by
  rw [magnitude, Nat.cast_mul, Nat.cast_mul, mul_div_mul_left _ _ (by norm_num)]

/-- A midpoint is a fraction of units. -/
theorem midpoint_eq_div (rank : Nat) :
    ((rankUnits rank + rankUnits (rank + 1) : Nat) : ℚ) / (2 * unitsPerOne : Nat)
      = midpoint rank := by
  rw [midpoint, magnitude, magnitude]
  -- the units stay as they are: they are too many to be counted out
  generalize unitsPerOne = one
  push_cast
  ring

/-- The test of a candidate: its place lies between the scaled midpoints around the magnitude. -/
theorem readsBack_iff {rank low high step : Nat} {exponent : Int}
    (hlow : Scaled (midpoint (rank - 1)) exponent low step)
    (hhigh : Scaled (midpoint rank) exponent high step) (coefficient : Nat) :
    (if rank % 2 = 0 then
        decide (low ≤ coefficient * step) && decide (coefficient * step ≤ high)
      else decide (low < coefficient * step) && decide (coefficient * step < high)) = true ↔
      ReadsBack rank (coefficient * 10 ^ exponent) := by
  unfold ReadsBack
  split
  · rw [Bool.and_eq_true, decide_eq_true_iff, decide_eq_true_iff, hlow.le_iff, hhigh.ge_iff]
  · rw [Bool.and_eq_true, decide_eq_true_iff, decide_eq_true_iff, hlow.lt_iff, hhigh.gt_iff]

/-- The candidate with a number of digits is one of the two neighbours of the magnitude on the grid
that reads back as it; there is none when neither of them does. -/
theorem shortestOf?_cases {rank : Nat} (h : rank ≠ 0) (count : Nat) :
    ∃ below : Nat, below * 10 ^ gridExponent rank count ≤ magnitude rank ∧
      magnitude rank < (below + 1 : Nat) * 10 ^ gridExponent rank count ∧
      (shortestOf? rank count = none →
        ¬ReadsBack rank (below * 10 ^ gridExponent rank count) ∧
          ¬ReadsBack rank ((below + 1 : Nat) * 10 ^ gridExponent rank count)) ∧
      ∀ d, shortestOf? rank count = some d →
        ∃ coefficient : Nat, d = ofScaled coefficient (gridExponent rank count) ∧
          ReadsBack rank (coefficient * 10 ^ gridExponent rank count) := by
  have hden : 0 < 2 * unitsPerOne := Nat.mul_pos (by decide) unitsPerOne_pos
  have hprevious : rank - 1 + 1 = rank := Nat.sub_add_cancel (Nat.one_le_iff_ne_zero.mpr h)
  have hvalue := scaled_rescale (2 * rankUnits rank) hden (gridExponent rank count)
  have hlow := scaled_rescale (rankUnits (rank - 1) + rankUnits (rank - 1 + 1)) hden
    (gridExponent rank count)
  have hhigh := scaled_rescale (rankUnits rank + rankUnits (rank + 1)) hden
    (gridExponent rank count)
  rw [magnitude_eq_div] at hvalue
  rw [midpoint_eq_div, rescale_snd _ (2 * rankUnits rank)] at hlow hhigh
  rw [hprevious] at hlow
  unfold shortestOf?
  dsimp only
  rw [← gridExponent]
  generalize gridExponent rank count = exponent at *
  generalize rescale (2 * rankUnits rank) (2 * unitsPerOne) exponent = scaled at *
  generalize (rescale (rankUnits (rank - 1) + rankUnits rank) (2 * unitsPerOne) exponent) = low at *
  generalize (rescale (rankUnits rank + rankUnits (rank + 1)) (2 * unitsPerOne) exponent) = high
    at *
  obtain ⟨value, step⟩ := scaled
  obtain ⟨low, _⟩ := low
  obtain ⟨high, _⟩ := high
  dsimp only at *
  have hreads := readsBack_iff hlow hhigh
  refine ⟨value / step, (hvalue.ge_iff _).mpr (Nat.div_mul_le_self value step),
    (hvalue.lt_iff _).mpr ((Nat.div_lt_iff_lt_mul hvalue.step_pos).mp (Nat.lt_succ_self _)), ?_, ?_⟩
  · intro hnone
    split at hnone
    · next hbelow habove =>
      exact ⟨fun hv => Bool.eq_false_iff.mp hbelow ((hreads _).mpr hv),
        fun hv => Bool.eq_false_iff.mp habove ((hreads _).mpr hv)⟩
    · cases hnone
    · cases hnone
    · split at hnone
      · cases hnone
      · split at hnone <;> cases hnone
  · intro d hd
    split at hd
    · cases hd
    · next hbelow _ => exact ⟨_, (Option.some.inj hd).symm, (hreads _).mp hbelow⟩
    · next _ habove => exact ⟨_, (Option.some.inj hd).symm, (hreads _).mp habove⟩
    · next hbelow habove =>
      split at hd
      · exact ⟨_, (Option.some.inj hd).symm, (hreads _).mp hbelow⟩
      · split at hd
        · exact ⟨_, (Option.some.inj hd).symm, (hreads _).mp habove⟩
        · -- of two that are equally near, the even one is taken
          refine ⟨_, (Option.some.inj hd).symm, ?_⟩
          rcases Nat.mod_two_eq_zero_or_one (value / step) with heven | hodd
          · rw [heven]
            exact (hreads _).mp hbelow
          · rw [hodd]
            exact (hreads _).mp habove

/-- The grid of seventeen digits is finer than the magnitudes are apart. -/
theorem grid_lt_spacing (rank : Nat) :
    (10 : ℚ) ^ gridExponent (rank + 1) 17 < spacing rank / unitsPerOne := by
  have hunits : 0 < rankUnits (rank + 1) := by
    have := spacing_pos rank
    rw [rankUnits_succ]
    omega
  have hpoint := (pointOf_bounds hunits unitsPerOne_pos).1
  have hgrid :
      gridExponent (rank + 1) 17 + 16 = pointOf (rankUnits (rank + 1)) unitsPerOne - 1 := by
    rw [gridExponent]
    omega
  have hsixteen : (2 : ℚ) ^ 53 < 10 ^ (16 : Int) := by norm_num
  rw [← hgrid, ten_zpow_add, ← magnitude] at hpoint
  have hspacing : (0 : ℚ) < spacing rank / unitsPerOne :=
    div_pos (Nat.cast_pos.mpr (spacing_pos rank)) unitsPerOne_cast_pos
  have hlt := calc
    (10 : ℚ) ^ gridExponent (rank + 1) 17 * 10 ^ (16 : Int) ≤ magnitude (rank + 1) := hpoint
    _ ≤ 2 ^ 53 * (spacing rank / unitsPerOne) := magnitude_succ_le rank
    _ < 10 ^ (16 : Int) * (spacing rank / unitsPerOne) :=
      mul_lt_mul_of_pos_right hsixteen hspacing
  rw [mul_comm] at hlt
  exact lt_of_mul_lt_mul_left hlt (ten_zpow_pos 16).le

/-- Seventeen digits are enough to read back. -/
theorem shortestOf?_seventeen {rank : Nat} (h : rank ≠ 0) : shortestOf? rank 17 ≠ none := by
  obtain ⟨previous, rfl⟩ := Nat.exists_eq_succ_of_ne_zero h
  obtain ⟨below, hbelow, habove, hnone, -⟩ := shortestOf?_cases h 17
  intro hnone'
  obtain ⟨hnotBelow, hnotAbove⟩ := hnone hnone'
  have hgrid := grid_lt_spacing previous
  have hbefore := magnitude_succ previous
  have hbehind := magnitude_succ (previous + 1)
  have hspacing : (spacing previous / unitsPerOne : ℚ) ≤ spacing (previous + 1) / unitsPerOne :=
    div_le_div_of_nonneg_right (Nat.cast_le.mpr (spacing_mono (Nat.le_succ previous)))
      unitsPerOne_cast_pos.le
  have hlow :
      midpoint previous = magnitude (previous + 1) - spacing previous / unitsPerOne / 2 := by
    rw [midpoint, hbefore]
    ring
  have hhigh : midpoint (previous + 1)
      = magnitude (previous + 1) + spacing (previous + 1) / unitsPerOne / 2 := by
    rw [midpoint, hbehind]
    ring
  rw [Nat.cast_add, Nat.cast_one, add_mul, one_mul] at habove hnotAbove
  generalize (below : ℚ) * 10 ^ gridExponent (previous + 1) 17 = place at *
  -- the nearer neighbour is at most half a step away
  by_cases hnear : magnitude (previous + 1) - place ≤ 10 ^ gridExponent (previous + 1) 17 / 2
  · apply hnotBelow
    apply ReadsBack.of_lt
    · rw [Nat.succ_sub_one, hlow]
      linarith
    · exact lt_of_le_of_lt hbelow (magnitude_lt_midpoint _)
  · apply hnotAbove
    apply ReadsBack.of_lt
    · exact lt_trans (midpoint_lt_magnitude previous) habove
    · rw [hhigh]
      linarith

/-! ### The digits that are chosen -/

/-- The digits of a magnitude are those of a candidate, without the zeros at the end. -/
theorem exists_shortest_eq {rank : Nat} (h : rank ≠ 0) :
    ∃ (coefficient : Nat) (exponent : Int),
      shortest rank = (ofScaled coefficient exponent).trimmed ∧
        ReadsBack rank (coefficient * 10 ^ exponent) := by
  unfold shortest
  rw [if_neg h]
  split
  · next d hd =>
    obtain ⟨i, -, hi⟩ := List.exists_of_findSome?_eq_some hd
    obtain ⟨_, -, -, -, hsome⟩ := shortestOf?_cases h (i + 1)
    obtain ⟨coefficient, rfl, hreads⟩ := hsome d hi
    exact ⟨coefficient, _, rfl, hreads⟩
  · next hnone =>
    have hlast : 16 ∈ List.range 17 := by simp
    exact absurd (List.findSome?_eq_none_iff.mp hnone 16 hlast) (shortestOf?_seventeen h)

/-- The digits of a magnitude read back as it. -/
theorem readsBack_shortest {rank : Nat} (h : rank ≠ 0) :
    ReadsBack rank (shortest rank).value := by
  obtain ⟨coefficient, exponent, hshortest, hreads⟩ := exists_shortest_eq h
  rwa [hshortest, value_trimmed, value_ofScaled]

/-- The point of the digits of a magnitude stands behind the first digit of their value. -/
theorem value_shortest_bounds {rank : Nat} (h : rank ≠ 0) :
    (10 : ℚ) ^ ((shortest rank).point - 1) ≤ (shortest rank).value ∧
      (shortest rank).value < (10 : ℚ) ^ (shortest rank).point := by
  obtain ⟨coefficient, exponent, hshortest, hreads⟩ := exists_shortest_eq h
  have hne : coefficient ≠ 0 := by
    rintro rfl
    simpa using hreads.pos
  rw [hshortest, value_trimmed]
  exact value_ofScaled_bounds hne exponent

end Decimal

end QueryTemplates
