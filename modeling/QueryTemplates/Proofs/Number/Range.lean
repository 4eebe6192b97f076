import QueryTemplates.Fragment.Builder
import QueryTemplates.Proofs.Number.Magnitude
import QueryTemplates.Proofs.Outcome

/-!
# Numbers within bounds

A number lies between two integers when its exact value does; NaN and the infinities lie between
none. `checkRange` accepts exactly such numbers of safe magnitude.

About `SPEC_FULL.md` §4.1 (lines 55–58).
-/

namespace QueryTemplates

/-- The exact value of the number lies between two integers. -/
def Number.Within (least most : Int) (n : Number) : Prop :=
  ∃ units, n.level? = some (.units units) ∧ least * unitsPerOne ≤ units ∧
    units ≤ most * unitsPerOne

/-! ### The check of a range -/

/-- Integers are within bounds by their own order. -/
theorem within_int_iff {least most k : Int} :
    (Number.int k).Within least most ↔ least ≤ k ∧ k ≤ most := by
  have hpos : (0 : Int) < unitsPerOne := Int.natCast_pos.mpr unitsPerOne_pos
  unfold Number.Within Number.level?
  constructor
  · rintro ⟨units, hunits, hleast, hmost⟩
    cases hunits
    exact ⟨Int.le_of_mul_le_mul_right hleast hpos, Int.le_of_mul_le_mul_right hmost hpos⟩
  · rintro ⟨hleast, hmost⟩
    exact ⟨_, rfl, Int.mul_le_mul_of_nonneg_right hleast (Int.le_of_lt hpos),
      Int.mul_le_mul_of_nonneg_right hmost (Int.le_of_lt hpos)⟩

theorem level?_int (n : Int) : (Number.int n).level? = some (.units (n * unitsPerOne)) := rfl

/-- Bounds on both sides are met by finite numbers only. -/
theorem within_iff_le {least most : Int} {n : Number} :
    n.Within least most ↔ (Number.int least).le n = true ∧ n.le (.int most) = true := by
  rw [Number.Within, Number.le, Number.le, level?_int, level?_int]
  -- the bounds stay as they are: their units are too many to be counted out
  generalize least * (unitsPerOne : Int) = low
  generalize most * (unitsPerOne : Int) = high
  cases n.level? with
  | none => simp
  | some level =>
    cases level with
    | below => simp [Level.le]
    | units count => simp
    | above => simp [Level.le]

/-- What is within bounds is within wider ones. -/
theorem Number.Within.mono {least most least' most' : Int} {n : Number} (h : n.Within least most)
    (hleast : least' ≤ least) (hmost : most ≤ most') : n.Within least' most' := by
  have hpos : (0 : Int) ≤ unitsPerOne := Int.natCast_nonneg unitsPerOne
  obtain ⟨units, hunits, hlow, hhigh⟩ := h
  exact ⟨units, hunits, Int.le_trans (Int.mul_le_mul_of_nonneg_right hleast hpos) hlow,
    Int.le_trans hhigh (Int.mul_le_mul_of_nonneg_right hmost hpos)⟩

theorem isSafe_iff {n : Number} : n.isSafe = true ↔ n.Within (-greatestSafe) greatestSafe := by
  rw [Number.isSafe, Bool.and_eq_true, within_iff_le]

/-- A number of safe magnitude passes the check that it is a number. -/
theorem checkNotNaN_of_isSafe {n : Number} (argument : Argument) (h : n.isSafe = true) :
    checkNotNaN argument n = .ok () := by
  rw [isSafe_iff] at h
  cases n with
  | int k =>
    obtain ⟨hleast, hmost⟩ := within_int_iff.mp h
    rw [checkNotNaN, if_pos (ofInt?_isSome_of_safe (by omega))]
  | float x =>
    cases x with
    | nan payload =>
      obtain ⟨_, hunits, -⟩ := h
      cases hunits
    | infinite negative => rfl
    | finite negative rank => rfl

section

variable {least most : Value} {argument : Argument} {n : Number} {low high : Bool}

/-- A check of a number tests for NaN, then for safety, then for the bounds. -/
theorem checkRange_eq (hlow : boundLe least (.ofNumber n) = .ok low)
    (hhigh : boundLe (.ofNumber n) most = .ok high) :
    checkRange least most argument (.ofNumber n) = (do
      checkNotNaN argument n
      if n.isSafe then
        if low && high then return n else throw (.outside argument least most n)
      else throw (.unsafeMagnitude argument n)) := by
  rw [checkRange, Value.number?_ofNumber]
  dsimp only
  cases checkNotNaN argument n with
  | error e => rfl
  | ok _ =>
    rw [ok_bind, ok_bind]
    cases n.isSafe with
    | false => rfl
    | true =>
      rw [hlow, hhigh]
      cases low with
      | false => rfl
      | true => cases high <;> rfl

/-- A number is accepted when its magnitude is safe and it lies within the bounds. -/
theorem checkRange_eq_ok_iff (hlow : boundLe least (.ofNumber n) = .ok low)
    (hhigh : boundLe (.ofNumber n) most = .ok high) {m : Number} :
    checkRange least most argument (.ofNumber n) = .ok m ↔
      m = n ∧ n.isSafe = true ∧ low = true ∧ high = true := by
  rw [checkRange_eq hlow hhigh]
  cases hs : n.isSafe with
  | false =>
    cases checkNotNaN argument n <;> simp [throw, throwThe, MonadExceptOf.throw]
  | true =>
    rw [checkNotNaN_of_isSafe argument hs]
    cases low <;> cases high <;>
      simp [throw, throwThe, MonadExceptOf.throw, pure, Except.pure, eq_comm]

/-- A number is refused for its value, never for its kind. -/
theorem category_of_checkRange (hlow : boundLe least (.ofNumber n) = .ok low)
    (hhigh : boundLe (.ofNumber n) most = .ok high) {e : ArgumentError}
    (h : checkRange least most argument (.ofNumber n) = .error e) :
    e.category = .badValue ∨ e.category = .overflow := by
  rw [checkRange_eq hlow hhigh] at h
  rcases bind_eq_error_iff.mp h with h | ⟨_, -, h⟩
  · cases n with
    | int k =>
      rw [checkNotNaN] at h
      split at h
      · cases h
      · cases h
        exact .inr rfl
    | float x =>
      cases x with
      | nan payload =>
        cases h
        exact .inl rfl
      | _ => cases h
  · cases hsafe : n.isSafe with
    | false =>
      rw [hsafe] at h
      cases h
      exact .inl rfl
    | true =>
      rw [hsafe] at h
      cases low <;> cases high <;> cases h
      all_goals exact .inl rfl

end

section

variable (argument : Argument) (n : Number)

theorem boundLe_int_left (least : Int) :
    boundLe (.int least) (.ofNumber n) = .ok ((Number.int least).le n) := by
  cases n <;> rfl

theorem boundLe_int_right (most : Int) :
    boundLe (.ofNumber n) (.int most) = .ok (n.le (.int most)) := by
  cases n <;> rfl

/-- Without an upper bound the comparison is with infinity. -/
theorem boundLe_unbounded :
    boundLe (.ofNumber n) Builder.unbounded = .ok (n.le (.float (.infinite false))) := by
  cases n <;> rfl

/-- Between two integers of safe magnitude, the check accepts what lies within them. -/
theorem checkRange_int_eq_ok_iff {least most : Int} (hleast : -(greatestSafe : Int) ≤ least)
    (hmost : most ≤ greatestSafe) {m : Number} :
    checkRange (.int least) (.int most) argument (.ofNumber n) = .ok m ↔
      m = n ∧ n.Within least most := by
  rw [checkRange_eq_ok_iff (boundLe_int_left n least) (boundLe_int_right n most), isSafe_iff,
    ← within_iff_le]
  constructor
  · rintro ⟨hm, -, h⟩
    exact ⟨hm, h⟩
  · rintro ⟨hm, h⟩
    exact ⟨hm, h.mono hleast hmost, h⟩

/-- Without an upper bound, the check accepts what lies up to the greatest safe magnitude. -/
theorem checkRange_unbounded_eq_ok_iff {least : Int} (hleast : -(greatestSafe : Int) ≤ least)
    {m : Number} :
    checkRange (.int least) Builder.unbounded argument (.ofNumber n) = .ok m ↔
      m = n ∧ n.Within least greatestSafe := by
  rw [checkRange_eq_ok_iff (boundLe_int_left n least) (boundLe_unbounded n), isSafe_iff]
  constructor
  · rintro ⟨hm, hsafe, hlow, -⟩
    exact ⟨hm, within_iff_le.mpr ⟨hlow, (within_iff_le.mp hsafe).2⟩⟩
  · rintro ⟨hm, h⟩
    refine ⟨hm, h.mono hleast (Int.le_refl _), (within_iff_le.mp h).1, ?_⟩
    obtain ⟨units, hunits, -⟩ := h
    rw [Number.le, hunits]
    rfl

end

end QueryTemplates
