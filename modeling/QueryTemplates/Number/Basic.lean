import QueryTemplates.Number.Layout

/-!
# Numbers

A number is an integer of any size or a binary number of 64 bits. The two kinds are compared by
exact value, never by converting one into the other: every number but NaN has a *level* on the
line of the reals extended by two ends, and integers and finite numbers are counted in the same
units there.

Models the numbers of `SPEC_FULL.md` §3 (lines 38–48).
-/

namespace QueryTemplates

/-- An integer of any size or a binary number of 64 bits. -/
inductive Number where
  | int (value : Int)
  | float (value : Binary64)
deriving DecidableEq

/-- A place on the line of the reals with an end on each side, in units of `2 ^ -1074`. -/
inductive Level where
  | below
  | units (count : Int)
  | above
deriving DecidableEq

namespace Level

/-- The order of the extended line. -/
def le : Level → Level → Bool
  | .below, _ => true
  | _, .above => true
  | .units a, .units b => decide (a ≤ b)
  | _, _ => false

@[simp] theorem le_units (a b : Int) : le (.units a) (.units b) = decide (a ≤ b) := rfl

end Level

/-- The level of a binary number; NaN has none. -/
def Binary64.level? : Binary64 → Option Level
  | .nan _ => none
  | .infinite true => some .below
  | .infinite false => some .above
  | .finite negative rank => some (.units (Binary64.signedUnits negative rank))

namespace Number

/-- The level of a number; NaN has none. -/
def level? : Number → Option Level
  | .int n => some (.units (n * unitsPerOne))
  | .float x => x.level?

/-- `a ≤ b` by exact value; false when one of them is NaN. -/
def le (a b : Number) : Bool :=
  match a.level?, b.level? with
  | some x, some y => x.le y
  | _, _ => false

/-- `a < b` by exact value; false when one of them is NaN. -/
def lt (a b : Number) : Bool :=
  match a.level?, b.level? with
  | some x, some y => !(y.le x)
  | _, _ => false

/-- Equality by exact value, across the two kinds; NaN is the same as NaN of its payload. -/
def same (a b : Number) : Bool :=
  match a.level?, b.level? with
  | some x, some y => x == y
  | none, none => a == b
  | _, _ => false

/-- The number is not a number. -/
def isNaN : Number → Bool
  | .float (.nan _) => true
  | _ => false

/-- The written form: an integer by its decimal digits, a binary number by the fewest digits that
read back. -/
def text : Number → String
  | .int n => toString n
  | .float x => x.text

end Number

end QueryTemplates
