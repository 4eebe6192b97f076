import QueryTemplates.Number.Power

/-!
# Binary numbers of 64 bits

A finite number is a sign and a *rank*: the place of its magnitude among all finite magnitudes
in increasing order. Every rank is a number and every finite number has exactly one rank, so no
canonical form has to be kept by hand, and a larger rank is a larger magnitude. Values are exact
naturals, counted in units of `2 ^ -1074`, the smallest positive magnitude; no operation here
uses machine arithmetic.

Main definitions: `roundDiv`, the one rounding primitive (nearest, a tie to the even neighbour);
`Binary64.units`, the exact value; `Binary64.ofRatio`, the number nearest to a fraction.

Models the numbers of `SPEC_FULL.md` §3 (lines 38–48).
-/

namespace QueryTemplates

/-- The integer nearest to `num / den`; a tie goes to the even neighbour. -/
def roundDiv (num den : Nat) : Nat :=
  let quotient := num / den
  let twice := 2 * (num % den)
  if twice < den then quotient
  else if den < twice then quotient + 1
  else quotient + quotient % 2

/-- The value of the magnitude at a rank, in units of `2 ^ -1074`. Below `2 ^ 52` the magnitudes
are the naturals; above, each run of `2 ^ 52` ranks doubles the distance between neighbours. -/
def rankUnits (rank : Nat) : Nat :=
  if rank < powerOfTwo 52 then rank
  else (powerOfTwo 52 + rank % powerOfTwo 52) * powerOfTwo (rank / powerOfTwo 52 - 1)

/-- The number of units in one. -/
def unitsPerOne : Nat := powerOfTwo 1074

/-- How many finite magnitudes there are. -/
def rankCount : Nat := 2047 * powerOfTwo 52

/-- A binary number of 64 bits: not a number, an infinity, or a sign with the rank of a finite
magnitude. Zero has two forms, one of each sign. What is not a number carries a payload, which tells
such values apart and counts for nothing else. -/
inductive Binary64 where
  | nan (payload : Nat)
  | infinite (negative : Bool)
  | finite (negative : Bool) (rank : Fin rankCount)
deriving DecidableEq

namespace Binary64

/-- There are finite numbers. -/
theorem rankCount_pos : 0 < rankCount := Nat.mul_pos (by decide) (powerOfTwo_pos 52)

/-- The zero of a sign. -/
def signedZero (negative : Bool) : Binary64 := .finite negative ⟨0, rankCount_pos⟩

/-- What is not a number and comes out of a computation. -/
def invalid : Binary64 := .nan 0

/-- Positive zero. -/
def zero : Binary64 := signedZero false

instance : Inhabited Binary64 := ⟨zero⟩

/-- The number of a given sign at a rank; beyond the last finite rank it is an infinity. -/
def ofRank (negative : Bool) (rank : Nat) : Binary64 :=
  if h : rank < rankCount then .finite negative ⟨rank, h⟩ else .infinite negative

/-- The number of the given sign nearest to `num / den`, a tie going to the even rank. The
fraction is first cut to 53 significant bits: `m` units of `2 ^ k` are the rank `k * 2 ^ 52 + m`,
and that stays true when rounding carries `m` to `2 ^ 53`. -/
def ofRatio (negative : Bool) (num den : Nat) : Binary64 :=
  let k := (num * unitsPerOne / den).log2 - 52
  ofRank negative
    (k * powerOfTwo 52 + roundDiv (num * unitsPerOne) (den * powerOfTwo k))

/-- The number, if it is finite. -/
def finite? : Binary64 → Option Binary64
  | .finite negative rank => some (.finite negative rank)
  | _ => none

/-- The number nearest to an integer; `none` when that is beyond the finite numbers. -/
def ofInt? (n : Int) : Option Binary64 := (ofRatio (decide (n < 0)) n.natAbs 1).finite?

/-- The exact signed value of a finite number in units of `2 ^ -1074`. -/
def signedUnits (negative : Bool) (rank : Fin rankCount) : Int :=
  if negative then -(rankUnits rank : Int) else rankUnits rank

/-- The finite number nearest to a signed count of parts, `per` of which make one. A zero result
of an exact zero is positive. -/
def ofParts (parts : Int) (per : Nat) : Binary64 :=
  ofRatio (decide (parts < 0)) parts.natAbs per

/-- The opposite number. -/
def neg : Binary64 → Binary64
  | .nan payload => .nan payload
  | .infinite negative => .infinite (!negative)
  | .finite negative rank => .finite (!negative) rank

/-- The rounded sum; only sums of finite numbers are exact before rounding. -/
def add : Binary64 → Binary64 → Binary64
  | .finite n₁ r₁, .finite n₂ r₂ =>
    if n₁ && n₂ && r₁.val == 0 && r₂.val == 0 then .finite true r₁
    else ofParts (signedUnits n₁ r₁ + signedUnits n₂ r₂) unitsPerOne
  | .finite _ _, y => y
  | .infinite n₁, .infinite n₂ => if n₁ == n₂ then .infinite n₁ else invalid
  | .infinite n₁, .finite _ _ => .infinite n₁
  | _, _ => invalid

/-- The rounded product. -/
def mul : Binary64 → Binary64 → Binary64
  | .finite n₁ r₁, .finite n₂ r₂ =>
    ofRatio (n₁ != n₂) (rankUnits r₁ * rankUnits r₂) (unitsPerOne * unitsPerOne)
  | .infinite n₁, .finite n₂ r₂ => if r₂.val == 0 then invalid else .infinite (n₁ != n₂)
  | .finite n₁ r₁, .infinite n₂ => if r₁.val == 0 then invalid else .infinite (n₁ != n₂)
  | .infinite n₁, .infinite n₂ => .infinite (n₁ != n₂)
  | _, _ => invalid

/-- The integer a number is equal to, if there is one. -/
def toInt? : Binary64 → Option Int
  | .finite negative rank =>
    if rankUnits rank % unitsPerOne = 0 then
      let whole : Int := rankUnits rank / unitsPerOne
      some (if negative then -whole else whole)
    else none
  | _ => none

end Binary64

end QueryTemplates
