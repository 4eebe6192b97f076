import QueryTemplates.Fragment.Basic
import QueryTemplates.Number.Basic

/-!
# The characters of written numbers

A number is written with letters, digits, signs and a point only, whatever its kind and size. So
what stands behind a suffix mark holds no quote and no bracket.

About `SPEC_FULL.md` §3 (lines 47–48).
-/

namespace QueryTemplates

/-- The character may stand in a written number. -/
def isNumeral (c : Char) : Bool := c.isAlphanum || c == '.' || c == '+' || c == '-'

theorem isNumeral_of_isDigit {c : Char} (h : c.isDigit = true) : isNumeral c = true := by
  simp [isNumeral, Char.isAlphanum, h]

/-- An integer is written in digits. -/
theorem isDigit_of_mem_digits {n : Nat} {c : Char} (h : c ∈ Nat.toDigits 10 n) :
    c.isDigit = true :=
  Nat.isDigit_of_mem_toDigits (by decide) (by decide) h

/-! ### Digits -/

namespace Decimal

/-- The digits are decimal digits. -/
def AllDigits (d : Decimal) : Prop := ∀ c ∈ d.digits, c.isDigit = true

/-- A scaled integer has the digits of that integer. -/
theorem allDigits_ofScaled (coefficient : Nat) (exponent : Int) :
    (ofScaled coefficient exponent).AllDigits := fun _ h => isDigit_of_mem_digits h

/-- Without the zeros at their end digits are still digits. -/
theorem AllDigits.trimmed {d : Decimal} (h : d.AllDigits) : d.trimmed.AllDigits := by
  intro c hc
  have hmem : c ∈ d.digits.reverse.dropWhile (· == '0') := List.mem_reverse.mp hc
  exact h c (List.mem_reverse.mp ((List.dropWhile_sublist _).subset hmem))

theorem allDigits_significant (count num den : Nat) : (significant count num den).AllDigits := by
  unfold significant
  split
  · exact allDigits_ofScaled 0 0
  · dsimp only
    split
    · exact allDigits_ofScaled _ _
    · exact allDigits_ofScaled _ _

theorem allDigits_of_shortestOf? {rank count : Nat} {d : Decimal}
    (h : shortestOf? rank count = some d) : d.AllDigits := by
  unfold shortestOf? at h
  dsimp only at h
  split at h
  · cases h
  · obtain rfl := Option.some.inj h
    exact allDigits_ofScaled _ _
  · obtain rfl := Option.some.inj h
    exact allDigits_ofScaled _ _
  · split at h
    · obtain rfl := Option.some.inj h
      exact allDigits_ofScaled _ _
    · split at h
      · obtain rfl := Option.some.inj h
        exact allDigits_ofScaled _ _
      · obtain rfl := Option.some.inj h
        exact allDigits_ofScaled _ _

/-- The fewest digits of a binary number are digits. -/
theorem allDigits_shortest (rank : Nat) : (shortest rank).AllDigits := by
  unfold shortest
  split
  · exact allDigits_ofScaled 0 0
  · split
    · next d hd =>
      obtain ⟨i, -, hi⟩ := List.exists_of_findSome?_eq_some hd
      exact (allDigits_of_shortestOf? hi).trimmed
    · exact (allDigits_significant _ _ _).trimmed

end Decimal

/-! ### Layouts -/

namespace Layout

/-- An exponent is written in characters of numbers. -/
theorem isNumeral_of_mem_exponentText {exponent : Int} {c : Char}
    (h : c ∈ exponentText exponent) : isNumeral c = true := by
  have hdigit {c : Char} (h : c ∈ Nat.toDigits 10 exponent.natAbs) : isNumeral c = true :=
    isNumeral_of_isDigit (isDigit_of_mem_digits h)
  unfold exponentText at h
  dsimp only at h
  rcases List.mem_cons.mp h with rfl | h
  · decide
  rcases List.mem_cons.mp h with rfl | h
  · split <;> decide
  · split at h
    · rcases List.mem_cons.mp h with rfl | h
      · decide
      · exact hdigit h
    · exact hdigit h

theorem isDigit_of_mem_padZeros {text : List Char} (htext : ∀ c ∈ text, c.isDigit = true)
    {length : Nat} {c : Char} (h : c ∈ padZeros text length) : c.isDigit = true := by
  rcases List.mem_append.mp h with h | h
  · exact htext c h
  · obtain rfl := List.eq_of_mem_replicate h
    decide

/-- Digits that are laid out are written in characters of numbers. -/
theorem isNumeral_of_mem_write (layout : Layout) {d : Decimal} (hd : d.AllDigits) {c : Char}
    (h : c ∈ layout.write d) : isNumeral c = true := by
  unfold write at h
  dsimp only at h
  -- where the point stands and how many zeros are added makes no difference
  generalize (if layout.withExponent then (1 : Int) else d.point) = point at h
  generalize max layout.least _ = least at h
  rcases List.mem_append.mp h with h | h
  · rcases List.mem_append.mp h with h | h
    · -- the digits before the point
      split at h
      · obtain rfl := List.mem_singleton.mp h
        decide
      · exact isNumeral_of_isDigit (isDigit_of_mem_padZeros hd (List.mem_of_mem_take h))
    · -- the point and the digits behind it
      split at h
      · split at h
        · obtain rfl := List.mem_singleton.mp h
          decide
        · cases h
      · rcases List.mem_cons.mp h with rfl | h
        · decide
        · refine isNumeral_of_isDigit (isDigit_of_mem_padZeros ?_ h)
          intro c hc
          rcases List.mem_append.mp hc with hc | hc
          · obtain rfl := List.eq_of_mem_replicate hc
            decide
          · exact hd c (List.mem_of_mem_drop hc)
  · split at h
    · exact isNumeral_of_mem_exponentText h
    · cases h

end Layout

/-! ### Numbers -/

/-- An integer is written in characters of numbers. -/
theorem isNumeral_of_mem_int {n : Int} {c : Char} (h : c ∈ (toString n).toList) :
    isNumeral c = true := by
  have hdigit {k : Nat} {c : Char} (h : c ∈ k.repr.toList) : isNumeral c = true := by
    rw [Nat.toList_repr] at h
    exact isNumeral_of_isDigit (isDigit_of_mem_digits h)
  cases n with
  | ofNat k => exact hdigit h
  | negSucc k =>
    have hsplit : (toString (Int.negSucc k)).toList = '-' :: (k + 1).repr.toList := by
      show ("-" ++ (k + 1).repr).toList = _
      simp
    rw [hsplit] at h
    rcases List.mem_cons.mp h with rfl | h
    · decide
    · exact hdigit h

/-- A binary number is written in characters of numbers. -/
theorem isNumeral_of_mem_text {x : Binary64} {c : Char} (h : c ∈ x.text.toList) :
    isNumeral c = true := by
  have hsign {negative : Bool} {c : Char} (h : c ∈ if negative then ['-'] else []) :
      isNumeral c = true := by
    cases negative with
    | false => cases h
    | true =>
      obtain rfl := List.mem_singleton.mp h
      decide
  have hnan : ['n', 'a', 'n'].all isNumeral = true := by decide
  have hinf : ['i', 'n', 'f'].all isNumeral = true := by decide
  rw [Binary64.text, String.toList_ofList] at h
  cases x with
  | nan payload => exact List.all_eq_true.mp hnan c h
  | infinite negative =>
    rcases List.mem_append.mp h with h | h
    · exact hsign h
    · exact List.all_eq_true.mp hinf c h
  | finite negative rank =>
    rcases List.mem_append.mp h with h | h
    · exact hsign h
    · exact Layout.isNumeral_of_mem_write _ (Decimal.allDigits_shortest rank) h

/-- What stands behind a suffix mark is made of letters, digits, signs and points. -/
theorem isNumeral_of_mem_suffix {n : Number} {c : Char} (h : c ∈ n.suffix.toList) :
    isNumeral c = true := by
  cases n with
  | int k => exact isNumeral_of_mem_int h
  | float x =>
    rw [Number.suffix] at h
    split at h
    · exact isNumeral_of_mem_int h
    · exact isNumeral_of_mem_text h

end QueryTemplates
