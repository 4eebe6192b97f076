import QueryTemplates.Number.Decimal

/-!
# Layout of decimal digits

Digits become text either positionally (`12.5`) or with an exponent (`1.25e+01`). A layout fixes
which of the two is used, how far digits are written, and what becomes of a point that no digit
follows.

Numbers are written as in `SPEC_FULL.md` §3 (lines 47–48).
-/

namespace QueryTemplates

/-- How a run of digits is written. -/
structure Layout where
  /-- One digit before the point and a power of ten behind the last digit. -/
  withExponent : Bool
  /-- Zeros are appended until this many digits, counted from the first one, are written. -/
  least : Int
  /-- A positional text has a digit after its point. -/
  pointZero : Bool
  /-- A point stays even when no digit follows it. -/
  keepPoint : Bool

namespace Layout

/-- An exponent has a sign and at least two digits. -/
def exponentText (exponent : Int) : List Char :=
  let digits := Nat.toDigits 10 exponent.natAbs
  'e' :: (if exponent < 0 then '-' else '+') ::
    (if digits.length < 2 then '0' :: digits else digits)

/-- `text` with zeros behind it up to `length` characters. -/
def padZeros (text : List Char) (length : Nat) : List Char :=
  text ++ List.replicate (length - text.length) '0'

/-- The digits written in the given layout. -/
def write (layout : Layout) (d : Decimal) : List Char :=
  let point : Int := if layout.withExponent then 1 else d.point
  let least := max layout.least
    (if layout.pointZero && !layout.withExponent then point + 1 else point)
  let whole := if point ≤ 0 then ['0'] else (padZeros d.digits point.toNat).take point.toNat
  let fraction := padZeros (List.replicate (-point).toNat '0' ++ d.digits.drop point.toNat)
    (least - point).toNat
  let tail := if fraction.isEmpty then (if layout.keepPoint then ['.'] else [])
    else '.' :: fraction
  whole ++ tail ++ (if layout.withExponent then exponentText (d.point - 1) else [])

end Layout

/-- The written form of a magnitude without a requested precision: the fewest digits that read
back, positional from `0.0001` up to below `10 ^ 16`, and then with a digit after the point. -/
def Layout.plain (keepPoint : Bool) (d : Decimal) : List Char :=
  let layout : Layout :=
    { withExponent := d.point ≤ -4 || 16 < d.point
      least := 0
      pointZero := true
      keepPoint := keepPoint }
  layout.write d

namespace Binary64

/-- The text of a number: `nan`, `inf`, or the fewest digits that read back. -/
def textChars : Binary64 → List Char
  | .nan _ => ['n', 'a', 'n']
  | .infinite negative => (if negative then ['-'] else []) ++ ['i', 'n', 'f']
  | .finite negative rank =>
    (if negative then ['-'] else []) ++ Layout.plain false (Decimal.shortest rank)

/-- The text of a number as a string. -/
def text (x : Binary64) : String := String.ofList x.textChars

end Binary64

end QueryTemplates
