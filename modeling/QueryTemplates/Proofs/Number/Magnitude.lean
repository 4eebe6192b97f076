import Mathlib.Tactic.Ring
import QueryTemplates.Fragment.Argument

/-!
# Integers and binary numbers

An integer has a binary number near it as long as its magnitude stays below the point halfway
between the greatest finite magnitude and the power of two that would follow it:
`ofInt?_eq_none_iff`. From that point on it rounds to no finite number.

About the bounds of `SPEC_FULL.md` §4.1 (lines 55–58).
-/

namespace QueryTemplates

/-! ### Powers of two and logarithms -/

/-- Exponents add up. -/
theorem powerOfTwo_add (m n : Nat) : powerOfTwo (m + n) = powerOfTwo m * powerOfTwo n :=
  Nat.pow_add 2 m n

/-- Powers of two grow with their exponents. -/
theorem powerOfTwo_le {m n : Nat} (h : m ≤ n) : powerOfTwo m ≤ powerOfTwo n :=
  Nat.pow_le_pow_right (by decide) h

theorem lt_powerOfTwo_log2 (n : Nat) : n < powerOfTwo (n.log2 + 1) := Nat.lt_log2_self

theorem powerOfTwo_log2_le {n : Nat} (h : n ≠ 0) : powerOfTwo n.log2 ≤ n := Nat.log2_self_le h

/-- The logarithm tells which powers of two are not above a number. -/
theorem le_log2_iff {n : Nat} (h : n ≠ 0) (k : Nat) : k ≤ n.log2 ↔ powerOfTwo k ≤ n :=
  Nat.le_log2 h

theorem unitsPerOne_pos : 0 < unitsPerOne := powerOfTwo_pos 1074

/-- The logarithm of a count of units is known from that of the integer they make. -/
theorem log2_units {n : Nat} (h : n ≠ 0) : (n * unitsPerOne).log2 = n.log2 + 1074 := by
  have hunits : n * unitsPerOne ≠ 0 :=
    Nat.ne_of_gt (Nat.mul_pos (Nat.pos_of_ne_zero h) unitsPerOne_pos)
  rw [Nat.log2_eq_iff hunits]
  have hlow := Nat.mul_le_mul_right unitsPerOne (powerOfTwo_log2_le h)
  have hhigh := Nat.mul_lt_mul_of_pos_right (lt_powerOfTwo_log2 n) unitsPerOne_pos
  unfold unitsPerOne at hlow hhigh ⊢
  rw [← powerOfTwo_add] at hlow hhigh
  rw [Nat.add_right_comm]
  exact ⟨hlow, hhigh⟩

/-! ### Rounded quotients -/

theorem roundDiv_le (num den : Nat) : roundDiv num den ≤ num / den + 1 := by
  unfold roundDiv
  dsimp only
  have := Nat.mod_lt (num / den) (by decide : 0 < 2)
  split
  · omega
  · split <;> omega

theorem div_le_roundDiv (num den : Nat) : num / den ≤ roundDiv num den := by
  unfold roundDiv
  dsimp only
  split
  · omega
  · split <;> omega

/-- A common factor changes no quotient. -/
theorem roundDiv_mul_right {factor : Nat} (h : 0 < factor) (num den : Nat) :
    roundDiv (num * factor) (den * factor) = roundDiv num den := by
  have hdiv : num * factor / (den * factor) = num / den := Nat.mul_div_mul_right num den h
  have hmod : 2 * (num * factor % (den * factor)) = 2 * (num % den) * factor := by
    rw [Nat.mul_mod_mul_right, Nat.mul_assoc]
  unfold roundDiv
  simp only [hdiv, hmod, Nat.mul_lt_mul_right h]

/-- From halfway on behind an odd number, quotients are rounded up: the tie goes to the even
neighbour. -/
theorem lt_roundDiv_iff {num den quotient : Nat} (hden : 0 < den) (hodd : quotient % 2 = 1) :
    quotient < roundDiv num den ↔ (2 * quotient + 1) * den ≤ 2 * num := by
  have hnum : den * (num / den) + num % den = num := Nat.div_add_mod num den
  have hrest : num % den < den := Nat.mod_lt num hden
  have hhalf : (2 * quotient + 1) * den = 2 * (den * quotient) + den := by ring
  rcases Nat.lt_trichotomy (num / den) quotient with hless | hsame | hmore
  · have hstep := Nat.mul_le_mul_left den (Nat.succ_le_of_lt hless)
    have hround := roundDiv_le num den
    rw [Nat.mul_succ] at hstep
    omega
  · rw [hsame] at hnum
    unfold roundDiv
    dsimp only
    rw [hsame, hodd]
    split
    · omega
    · split <;> omega
  · have hstep := Nat.mul_le_mul_left den (Nat.succ_le_of_lt hmore)
    have hround := div_le_roundDiv num den
    rw [Nat.mul_succ] at hstep
    omega

/-- A count of units is rounded to 53 digits behind its exponent. -/
theorem roundDiv_units_le (units : Nat) :
    roundDiv units (powerOfTwo (units.log2 - 52)) ≤ powerOfTwo 53 := by
  have hlt : units < powerOfTwo 53 * powerOfTwo (units.log2 - 52) := by
    apply Nat.lt_of_lt_of_le (lt_powerOfTwo_log2 units)
    rw [← powerOfTwo_add]
    apply powerOfTwo_le
    omega
  have hdiv := (Nat.div_lt_iff_lt_mul (powerOfTwo_pos (units.log2 - 52))).mpr hlt
  have := roundDiv_le units (powerOfTwo (units.log2 - 52))
  omega

/-- A count of units that is long enough is rounded to no fewer digits. -/
theorem le_roundDiv_units {units : Nat} (h : 52 ≤ units.log2) :
    powerOfTwo 52 ≤ roundDiv units (powerOfTwo (units.log2 - 52)) := by
  have hunits : units ≠ 0 := by
    rintro rfl
    simp at h
  have hle : powerOfTwo 52 * powerOfTwo (units.log2 - 52) ≤ units := by
    rw [← powerOfTwo_add, Nat.add_sub_of_le h]
    exact powerOfTwo_log2_le hunits
  have hdiv := (Nat.le_div_iff_mul_le (powerOfTwo_pos (units.log2 - 52))).mpr hle
  exact Nat.le_trans hdiv (div_le_roundDiv _ _)

/-! ### Integers without a binary number -/

/-- The rank that the number nearest to a count of units would have. -/
def rankNear (units : Nat) : Nat :=
  (units.log2 - 52) * powerOfTwo 52 + roundDiv units (powerOfTwo (units.log2 - 52))

/-- The least magnitude of an integer that rounds to no finite number. -/
def leastBeyond : Nat := powerOfTwo 1024 - powerOfTwo 970

/-- An integer has no binary number exactly when its rank would be beyond the last one. -/
theorem ofInt?_eq_none_iff_rank {n : Int} :
    Binary64.ofInt? n = none ↔ rankCount ≤ rankNear (n.natAbs * unitsPerOne) := by
  have hratio : Binary64.ofRatio (decide (n < 0)) n.natAbs 1
      = Binary64.ofRank (decide (n < 0)) (rankNear (n.natAbs * unitsPerOne)) := by
    rw [Binary64.ofRatio, Nat.div_one, Nat.one_mul, rankNear]
  rw [Binary64.ofInt?, hratio, Binary64.ofRank]
  split
  · next hlt => simp [Binary64.finite?, hlt]
  · next hle => simpa [Binary64.finite?] using hle

/-- Whether a rank is that of a finite number shows in the logarithm of the units, and where that
leaves it open, in how they are rounded. -/
theorem rankCount_le_rankNear_iff {units : Nat} (h : 52 ≤ units.log2) :
    rankCount ≤ rankNear units ↔
      2097 < units.log2 ∨
        units.log2 = 2097 ∧ powerOfTwo 53 - 1 < roundDiv units (powerOfTwo 2045) := by
  have hlow := le_roundDiv_units h
  have hhigh := roundDiv_units_le units
  have htwice : powerOfTwo 53 = 2 * powerOfTwo 52 := by rw [powerOfTwo_succ, Nat.mul_comm]
  have hpos := powerOfTwo_pos 52
  unfold rankCount rankNear
  rcases Nat.lt_trichotomy units.log2 2097 with hless | hsame | hmore
  · have hexponent := Nat.mul_le_mul_right (powerOfTwo 52) (by omega : units.log2 - 52 ≤ 2044)
    omega
  · have hexponent : 2097 - 52 = 2045 := rfl
    rw [hsame, hexponent] at hlow hhigh ⊢
    omega
  · have hexponent := Nat.mul_le_mul_right (powerOfTwo 52) (by omega : 2046 ≤ units.log2 - 52)
    omega

/-- Of the integers between two powers of two, those are rounded up to the higher one that are at
least halfway behind the last number of 53 digits. -/
theorem lt_roundDiv_last_iff (m : Nat) :
    powerOfTwo 53 - 1 < roundDiv (m * unitsPerOne) (powerOfTwo 2045) ↔ leastBeyond ≤ m := by
  have hodd : (powerOfTwo 53 - 1) % 2 = 1 := by
    have htwice : powerOfTwo 53 = powerOfTwo 52 * 2 := powerOfTwo_succ 52
    have hpos := powerOfTwo_pos 52
    omega
  have hden : powerOfTwo 2045 = powerOfTwo 971 * unitsPerOne := by
    rw [unitsPerOne, ← powerOfTwo_add]
  have hlarge : powerOfTwo 1024 = powerOfTwo 53 * powerOfTwo 970 * 2 := by
    rw [← powerOfTwo_add, ← powerOfTwo_succ]
  have hhalf : powerOfTwo 971 = powerOfTwo 970 * 2 := powerOfTwo_succ 970
  have hbound : (2 * (powerOfTwo 53 - 1) + 1) * powerOfTwo 971
      = 2 * (powerOfTwo 1024 - powerOfTwo 970) := by
    obtain ⟨digits, hdigits⟩ := Nat.exists_eq_succ_of_ne_zero (Nat.ne_of_gt (powerOfTwo_pos 53))
    have hsplit : (digits + 1) * powerOfTwo 970 * 2
        = (2 * digits + 1) * powerOfTwo 970 + powerOfTwo 970 := by ring
    rw [hlarge, hhalf, hdigits, Nat.succ_eq_add_one, Nat.add_sub_cancel, hsplit,
      Nat.add_sub_cancel]
    ring
  rw [hden, roundDiv_mul_right unitsPerOne_pos, lt_roundDiv_iff (powerOfTwo_pos 971) hodd, hbound,
    leastBeyond]
  omega

/-- The number nearest to an integer is beyond the finite ones from halfway on between the greatest
of them and the next power of two. -/
theorem ofInt?_eq_none_iff {n : Int} : Binary64.ofInt? n = none ↔ leastBeyond ≤ n.natAbs := by
  rw [ofInt?_eq_none_iff_rank]
  generalize n.natAbs = m
  have hhalf : powerOfTwo 1024 = powerOfTwo 1023 * 2 := powerOfTwo_succ 1023
  have hsmall : powerOfTwo 970 ≤ powerOfTwo 1023 := powerOfTwo_le (by decide)
  have hpos := powerOfTwo_pos 1023
  by_cases hm : m = 0
  · have hrank : rankNear 0 = 0 := by
      simp [rankNear, roundDiv]
    have hcount := Binary64.rankCount_pos
    rw [hm, Nat.zero_mul, hrank, leastBeyond]
    omega
  · have hlog := log2_units hm
    have hmore : 1024 ≤ m.log2 ↔ powerOfTwo 1024 ≤ m := le_log2_iff hm 1024
    have hleast : 1023 ≤ m.log2 ↔ powerOfTwo 1023 ≤ m := le_log2_iff hm 1023
    rw [rankCount_le_rankNear_iff (by omega), lt_roundDiv_last_iff, leastBeyond]
    omega

/-- Safe integers are far from those beyond all binary numbers. -/
theorem greatestSafe_lt_leastBeyond : greatestSafe < leastBeyond := by
  have hmiddle : powerOfTwo 1024 = powerOfTwo 1023 * 2 := powerOfTwo_succ 1023
  have hlast : powerOfTwo 970 ≤ powerOfTwo 1023 := powerOfTwo_le (by decide)
  have hsafe : powerOfTwo 53 ≤ powerOfTwo 1023 := powerOfTwo_le (by decide)
  have hpos := powerOfTwo_pos 53
  unfold greatestSafe leastBeyond
  omega

/-- An integer of safe magnitude has a binary number near it. -/
theorem ofInt?_isSome_of_safe {n : Int} (h : n.natAbs ≤ greatestSafe) :
    (Binary64.ofInt? n).isSome := by
  rw [← Option.ne_none_iff_isSome, ne_eq, ofInt?_eq_none_iff, Nat.not_le]
  exact Nat.lt_of_le_of_lt h greatestSafe_lt_leastBeyond

end QueryTemplates
