import Mathlib.Algebra.Order.Field.Rat
import Mathlib.Order.Monotone.Basic
import Mathlib.Tactic.FieldSimp
import Mathlib.Tactic.Linarith
import Mathlib.Tactic.Positivity
import QueryTemplates.Proofs.Number.Magnitude

/-!
# Magnitudes in order

The finite magnitudes are counted by their ranks, and a larger rank is a larger magnitude. Between
two neighbours lies their midpoint; what reads back as the magnitude at a rank lies between the
midpoints on its two sides. Main statement: `ReadsBack.lt`, what reads back as the magnitude at one
rank is less than what reads back as that at a larger one.
-/

namespace QueryTemplates

/-! ### Neighbours -/

/-- The distance between the magnitude at a rank and the next one, in units. -/
def spacing (rank : Nat) : Nat := powerOfTwo (rank / powerOfTwo 52 - 1)

/-- Neighbours are apart. -/
theorem spacing_pos (rank : Nat) : 0 < spacing rank := powerOfTwo_pos _

/-- The distance of neighbours grows with their rank. -/
theorem spacing_mono {rank rank' : Nat} (h : rank ≤ rank') : spacing rank ≤ spacing rank' :=
  powerOfTwo_le (Nat.sub_le_sub_right (Nat.div_le_div_right h) 1)

/-- A rank from `2 ^ 52` on is a run of ranks and a place in it. -/
theorem rankUnits_of_run {run place : Nat} (hplace : place < powerOfTwo 52) :
    rankUnits (powerOfTwo 52 * (run + 1) + place)
      = (powerOfTwo 52 + place) * powerOfTwo run := by
  have hpos := powerOfTwo_pos 52
  have hlarge : ¬powerOfTwo 52 * (run + 1) + place < powerOfTwo 52 := by
    rw [Nat.mul_succ]
    omega
  rw [rankUnits, if_neg hlarge, Nat.mul_add_mod, Nat.mod_eq_of_lt hplace,
    Nat.mul_add_div hpos, Nat.div_eq_of_lt hplace, Nat.add_zero, Nat.add_sub_cancel]

theorem spacing_of_run {run place : Nat} (hplace : place < powerOfTwo 52) :
    spacing (powerOfTwo 52 * (run + 1) + place) = powerOfTwo run := by
  rw [spacing, Nat.mul_add_div (powerOfTwo_pos 52), Nat.div_eq_of_lt hplace, Nat.add_zero,
    Nat.add_sub_cancel]

theorem rankUnits_of_lt {rank : Nat} (h : rank < powerOfTwo 52) : rankUnits rank = rank :=
  if_pos h

theorem spacing_of_lt {rank : Nat} (h : rank < powerOfTwo 52) : spacing rank = 1 := by
  rw [spacing, Nat.div_eq_of_lt h]
  rfl

/-- A rank is below `2 ^ 52` or in a run behind it. -/
theorem rank_cases (rank : Nat) : rank < powerOfTwo 52 ∨
    ∃ run place, place < powerOfTwo 52 ∧ rank = powerOfTwo 52 * (run + 1) + place := by
  have hpos := powerOfTwo_pos 52
  by_cases h : rank < powerOfTwo 52
  · exact .inl h
  · right
    have hrun : 1 ≤ rank / powerOfTwo 52 := (Nat.one_le_div_iff hpos).mpr (by omega)
    refine ⟨rank / powerOfTwo 52 - 1, rank % powerOfTwo 52, Nat.mod_lt _ hpos, ?_⟩
    rw [Nat.sub_add_cancel hrun, Nat.div_add_mod]

/-- The next magnitude is one spacing away. -/
theorem rankUnits_succ (rank : Nat) : rankUnits (rank + 1) = rankUnits rank + spacing rank := by
  have hpos := powerOfTwo_pos 52
  rcases rank_cases rank with h | ⟨run, place, hplace, rfl⟩
  · rw [rankUnits_of_lt h, spacing_of_lt h]
    by_cases hnext : rank + 1 < powerOfTwo 52
    · exact rankUnits_of_lt hnext
    · have hfirst : rank + 1 = powerOfTwo 52 * (0 + 1) + 0 := by omega
      have hzero : powerOfTwo 52 * (0 + 1) + 0 = powerOfTwo 52 := by simp
      rw [hfirst, rankUnits_of_run hpos, hzero, powerOfTwo_zero, Nat.mul_one, Nat.add_zero]
  · rw [rankUnits_of_run hplace, spacing_of_run hplace]
    by_cases hnext : place + 1 < powerOfTwo 52
    · rw [Nat.add_assoc, rankUnits_of_run hnext, ← Nat.add_assoc, Nat.add_mul _ 1, Nat.one_mul]
    · have hrun : powerOfTwo 52 * (run + 1) + place + 1 = powerOfTwo 52 * (run + 1 + 1) + 0 := by
        rw [Nat.mul_succ _ (run + 1)]
        omega
      have hlast : powerOfTwo 52 = place + 1 := by omega
      rw [hrun, rankUnits_of_run hpos, powerOfTwo_succ run, hlast]
      ring

/-- A magnitude is at most `2 ^ 53` spacings to the magnitude in front of it. -/
theorem rankUnits_succ_le (rank : Nat) : rankUnits (rank + 1) ≤ powerOfTwo 53 * spacing rank := by
  have htwice : powerOfTwo 53 = powerOfTwo 52 * 2 := powerOfTwo_succ 52
  have hpos := powerOfTwo_pos 52
  rw [rankUnits_succ]
  rcases rank_cases rank with h | ⟨run, place, hplace, rfl⟩
  · rw [rankUnits_of_lt h, spacing_of_lt h]
    omega
  · rw [rankUnits_of_run hplace, spacing_of_run hplace, ← Nat.succ_mul]
    exact Nat.mul_le_mul_right _ (by omega)

/-- A higher rank has more units. -/
theorem rankUnits_strictMono : StrictMono rankUnits := by
  refine strictMono_nat_of_lt_succ fun rank => ?_
  have := spacing_pos rank
  rw [rankUnits_succ]
  omega

theorem rankUnits_zero : rankUnits 0 = 0 := rankUnits_of_lt (powerOfTwo_pos 52)

/-! ### Magnitudes and midpoints -/

/-- The magnitude at a rank as a fraction. -/
def magnitude (rank : Nat) : ℚ := rankUnits rank / unitsPerOne

/-- The midpoint between the magnitude at a rank and the next one. -/
def midpoint (rank : Nat) : ℚ := (magnitude rank + magnitude (rank + 1)) / 2

theorem unitsPerOne_cast_pos : (0 : ℚ) < unitsPerOne := Nat.cast_pos.mpr unitsPerOne_pos

/-- A higher rank has a greater magnitude. -/
theorem magnitude_strictMono : StrictMono magnitude := fun _ _ h =>
  div_lt_div_of_pos_right (Nat.cast_lt.mpr (rankUnits_strictMono h)) unitsPerOne_cast_pos

/-- The next magnitude is one spacing away. -/
theorem magnitude_succ (rank : Nat) :
    magnitude (rank + 1) = magnitude rank + spacing rank / unitsPerOne := by
  rw [magnitude, magnitude, rankUnits_succ, Nat.cast_add, add_div]

/-- A magnitude is at most `2 ^ 53` times its distance to the one in front of it. -/
theorem magnitude_succ_le (rank : Nat) :
    magnitude (rank + 1) ≤ 2 ^ 53 * (spacing rank / unitsPerOne : ℚ) := by
  have hunits : (rankUnits (rank + 1) : ℚ) ≤ (powerOfTwo 53 * spacing rank : Nat) :=
    Nat.cast_le.mpr (rankUnits_succ_le rank)
  have hpower : ((powerOfTwo 53 : Nat) : ℚ) = 2 ^ 53 := Nat.cast_pow 2 53
  rw [Nat.cast_mul, hpower] at hunits
  rw [magnitude, ← mul_div_assoc]
  exact div_le_div_of_nonneg_right hunits unitsPerOne_cast_pos.le

theorem magnitude_zero : magnitude 0 = 0 := by
  rw [magnitude, rankUnits_zero, Nat.cast_zero, zero_div]

/-- A midpoint is above the number of its rank. -/
theorem magnitude_lt_midpoint (rank : Nat) : magnitude rank < midpoint rank := by
  have := magnitude_strictMono (Nat.lt_succ_self rank)
  rw [midpoint]
  linarith

/-- A midpoint is below the next number. -/
theorem midpoint_lt_magnitude (rank : Nat) : midpoint rank < magnitude (rank + 1) := by
  have := magnitude_strictMono (Nat.lt_succ_self rank)
  rw [midpoint]
  linarith

/-- Midpoints are in the order of their ranks. -/
theorem midpoint_strictMono : StrictMono midpoint :=
  strictMono_nat_of_lt_succ fun rank =>
    (midpoint_lt_magnitude rank).trans (magnitude_lt_midpoint (rank + 1))

theorem midpoint_pos (rank : Nat) : 0 < midpoint rank := by
  refine lt_of_le_of_lt ?_ (magnitude_lt_midpoint rank)
  rw [← magnitude_zero]
  exact magnitude_strictMono.monotone (Nat.zero_le rank)

/-! ### What reads back -/

/-- A value reads back as the magnitude at a rank that is not zero: no other magnitude is nearer,
and a midpoint belongs to the even one of its neighbours. -/
def ReadsBack (rank : Nat) (v : ℚ) : Prop :=
  if rank % 2 = 0 then midpoint (rank - 1) ≤ v ∧ v ≤ midpoint rank
  else midpoint (rank - 1) < v ∧ v < midpoint rank

namespace ReadsBack

variable {rank rank' : Nat} {v v' : ℚ}

/-- A value strictly between two midpoints reads back as the number between them. -/
theorem of_lt (hlow : midpoint (rank - 1) < v) (hhigh : v < midpoint rank) : ReadsBack rank v := by
  unfold ReadsBack
  split
  · exact ⟨hlow.le, hhigh.le⟩
  · exact ⟨hlow, hhigh⟩

/-- A value that reads back is not below the lower midpoint. -/
theorem midpoint_le (h : ReadsBack rank v) : midpoint (rank - 1) ≤ v := by
  unfold ReadsBack at h
  split at h
  · exact h.1
  · exact h.1.le

/-- A value that reads back is not above the upper midpoint. -/
theorem le_midpoint (h : ReadsBack rank v) : v ≤ midpoint rank := by
  unfold ReadsBack at h
  split at h
  · exact h.2
  · exact h.2.le

/-- Only positive values read back as a rank. -/
theorem pos (h : ReadsBack rank v) : 0 < v := lt_of_lt_of_le (midpoint_pos _) h.midpoint_le

/-- What reads back as a larger magnitude is larger. -/
theorem lt (h : ReadsBack rank v) (h' : ReadsBack rank' v') (hlt : rank < rank') : v < v' := by
  by_cases hnext : rank' = rank + 1
  · -- the midpoint between the two belongs to only one of them
    subst hnext
    unfold ReadsBack at h h'
    rw [Nat.add_sub_cancel] at h'
    rcases Nat.mod_two_eq_zero_or_one rank with heven | hodd
    · rw [if_pos heven] at h
      rw [if_neg (by omega)] at h'
      exact lt_of_le_of_lt h.2 h'.1
    · rw [if_neg (by omega)] at h
      rw [if_pos (by omega)] at h'
      exact lt_of_lt_of_le h.2 h'.1
  · calc v ≤ midpoint rank := h.le_midpoint
      _ < midpoint (rank' - 1) := midpoint_strictMono (by omega)
      _ ≤ v' := h'.midpoint_le

/-- A value reads back as one magnitude at most. -/
theorem unique (h : ReadsBack rank v) (h' : ReadsBack rank' v) : rank = rank' := by
  rcases Nat.lt_trichotomy rank rank' with hlt | heq | hgt
  · exact absurd (h.lt h' hlt) (lt_irrefl v)
  · exact heq
  · exact absurd (h'.lt h hgt) (lt_irrefl v)

end ReadsBack

end QueryTemplates
