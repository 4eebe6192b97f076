/-!
# Powers of two and ten

The two powers that numbers are counted in: magnitudes of binary numbers are spaced by powers of
two, and their digits by powers of ten.
-/

namespace QueryTemplates

/-- Two to the power of `n`. -/
def powerOfTwo (n : Nat) : Nat := Nat.pow 2 n

/-- Ten to the power of `n`. -/
def powerOfTen (n : Nat) : Nat := Nat.pow 10 n

@[simp] theorem powerOfTwo_zero : powerOfTwo 0 = 1 := rfl

/-- The next power of two is twice this one. -/
theorem powerOfTwo_succ (n : Nat) : powerOfTwo (n + 1) = powerOfTwo n * 2 := rfl

theorem powerOfTwo_pos (n : Nat) : 0 < powerOfTwo n := Nat.pow_pos (by decide)

theorem powerOfTen_pos (n : Nat) : 0 < powerOfTen n := Nat.pow_pos (by decide)

end QueryTemplates
