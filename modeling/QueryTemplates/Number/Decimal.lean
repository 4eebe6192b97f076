import QueryTemplates.Number.Binary64

/-!
# Decimal digits of exact fractions

A positive fraction `num / den` is written with decimal digits in three ways: with a given number
of significant digits, with a given number of places after the point, or with the fewest digits
that still lie nearer to a given binary number than to its neighbours. All three work on exact
naturals and round to nearest, a tie going to the even digit.

Numbers are written as in `SPEC_FULL.md` §3 (lines 47–48).
-/

namespace QueryTemplates

/-- A run of decimal digits, the first one most significant, and the place of the point: the
digits stand for `0.d₁d₂… * 10 ^ point`. -/
structure Decimal where
  digits : List Char
  point : Int
deriving DecidableEq

namespace Decimal

/-- The digits of `coefficient * 10 ^ exponent`. -/
def ofScaled (coefficient : Nat) (exponent : Int) : Decimal :=
  let digits := Nat.toDigits 10 coefficient
  ⟨digits, digits.length + exponent⟩

/-- The digit of zero stands before the point. -/
def zero : Decimal := ofScaled 0 0

/-- Zeros at the end carry no value. -/
def trimmed (d : Decimal) : Decimal :=
  ⟨(d.digits.reverse.dropWhile (· == '0')).reverse, d.point⟩

/-- The least `point` with `num / den < 10 ^ point`, for a positive fraction. -/
def pointOf (num den : Nat) : Int :=
  if den ≤ num then (Nat.toDigits 10 (num / den)).length
  else 1 - ((Nat.toDigits 10 ((den - 1) / num)).length : Int)

/-- The fraction `num / den` divided by `10 ^ exponent`, again as a fraction. -/
def rescale (num den : Nat) (exponent : Int) : Nat × Nat :=
  if 0 ≤ exponent then (num, den * powerOfTen exponent.toNat)
  else (num * powerOfTen (-exponent).toNat, den)

/-- The fraction rounded to `count` significant digits. -/
def significant (count num den : Nat) : Decimal :=
  if num = 0 then zero else
  let exponent := pointOf num den - count
  let (n, d) := rescale num den exponent
  let coefficient := roundDiv n d
  if coefficient = powerOfTen count then ofScaled (powerOfTen (count - 1)) (exponent + 1)
  else ofScaled coefficient exponent

/-- The fraction rounded to `places` digits after the point. -/
def fixed (places num den : Nat) : Decimal :=
  ofScaled (roundDiv (num * powerOfTen places) den) (-(places : Int))

/-- Of the numbers with `count` significant digits, the one nearest to the magnitude at a rank
among those that read back as that rank: they lie between the midpoints to the neighbouring
magnitudes, the midpoints included when the rank is even. Only the two neighbours of the
magnitude on the grid of such numbers can be nearest. -/
def shortestOf? (rank count : Nat) : Option Decimal :=
  let units := rankUnits rank
  let den := 2 * unitsPerOne
  let exponent := pointOf units unitsPerOne - count
  let (value, step) := rescale (2 * units) den exponent
  let (low, _) := rescale (rankUnits (rank - 1) + units) den exponent
  let (high, _) := rescale (units + rankUnits (rank + 1)) den exponent
  let readsBack (coefficient : Nat) : Bool :=
    let place := coefficient * step
    if rank % 2 = 0 then low ≤ place && place ≤ high else low < place && place < high
  let below := value / step
  let above := below + 1
  match readsBack below, readsBack above with
  | false, false => none
  | true, false => some (ofScaled below exponent)
  | false, true => some (ofScaled above exponent)
  | true, true =>
    let gapBelow := value - below * step
    let gapAbove := above * step - value
    if gapBelow < gapAbove then some (ofScaled below exponent)
    else if gapAbove < gapBelow then some (ofScaled above exponent)
    else some (ofScaled (below + below % 2) exponent)

/-- The fewest digits that read back as the magnitude at a rank; seventeen always do. -/
def shortest (rank : Nat) : Decimal :=
  if rank = 0 then zero else
  match (List.range 17).findSome? fun i => shortestOf? rank (i + 1) with
  | some d => d.trimmed
  | none => (significant 17 (rankUnits rank) unitsPerOne).trimmed

end Decimal

end QueryTemplates
