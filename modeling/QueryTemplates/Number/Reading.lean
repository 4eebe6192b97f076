import QueryTemplates.Number.Basic
import QueryTemplates.Number.DigitLimit
import QueryTemplates.Text.Blank
import QueryTemplates.Text.DecimalDigit

/-!
# Reading numbers

Decimal text becomes an integer in a base or the binary number nearest to it. Both readers take
blanks around the number, a sign, and single underscores between digits; digits may be those of
any script.

Numbers come from documents, `SPEC_FULL.md` §10.3 (lines 166–167).
-/

namespace QueryTemplates

/-- A blank that may stand around a written number. -/
def isNumberBlank (c : Char) : Bool := c == ' ' || ('\t' ≤ c && c ≤ '\r')

/-- Blanks and digits beyond ASCII as a blank and the digits of ASCII, everything else unchanged. -/
def plainChars (cs : List Char) : List Char :=
  cs.map fun c => match decimalDigit? c with
    | some d => Nat.digitChar d
    | none => if 127 < c.toNat && isBlank c then ' ' else c

/-- The text without the blanks at its two ends. -/
def stripNumber (cs : List Char) : List Char :=
  ((cs.dropWhile isNumberBlank).reverse.dropWhile isNumberBlank).reverse

/-- Removes underscores that stand between two of the characters accepted by `isDigit`; `none`
when one stands elsewhere. -/
def dropSeparators (isDigit : Char → Bool) : List Char → Option (List Char)
  | a :: '_' :: b :: rest =>
    if isDigit a && isDigit b then (dropSeparators isDigit (b :: rest)).map (a :: ·) else none
  | '_' :: _ => none
  | [_, '_'] => none
  | c :: rest => (dropSeparators isDigit rest).map (c :: ·)
  | [] => some []

/-- The value of a digit in bases up to sixteen. -/
def digitValue? (c : Char) : Option Nat :=
  if '0' ≤ c ∧ c ≤ '9' then some (c.toNat - '0'.toNat)
  else if 'a' ≤ c ∧ c ≤ 'f' then some (c.toNat - 'a'.toNat + 10)
  else if 'A' ≤ c ∧ c ≤ 'F' then some (c.toNat - 'A'.toNat + 10)
  else none

/-- The natural written by digits of a base; `none` when there is no digit or another character. -/
def natOfDigits? (base : Nat) (cs : List Char) : Option Nat :=
  if cs.isEmpty then none else
  cs.foldlM (fun acc c => match digitValue? c with
    | some d => if d < base then some (acc * base + d) else none
    | none => none) 0

/-- Splits a sign off; `true` is a minus. -/
def splitSign : List Char → Bool × List Char
  | '-' :: rest => (true, rest)
  | '+' :: rest => (false, rest)
  | cs => (false, cs)

/-- A mark such as `0x` in front of the digits of base 2, 8 or 16 is passed over. -/
private def dropBaseMark (base : Nat) : List Char → List Char
  | '0' :: m :: rest =>
    let marked := match base with
      | 2 => m == 'b' || m == 'B'
      | 8 => m == 'o' || m == 'O'
      | 16 => m == 'x' || m == 'X'
      | _ => false
    if marked then (match rest with
      | '_' :: digits => digits
      | _ => rest)
    else '0' :: m :: rest
  | cs => cs

/-- Why a text is no integer. -/
inductive IntegerFault where
  /-- It is not written as one. -/
  | form
  /-- It has that many digits, which are too many. -/
  | tooLong (digits : Nat)
deriving DecidableEq

/-- The bases whose digits are whole numbers of bits, and so are read at any length. -/
def isBinaryBase (base : Nat) : Bool := base == 2 || base == 8 || base == 16

/-- The character may stand in the digits of a base. -/
def isDigitOf (base : Nat) (c : Char) : Bool := (digitValue? c).any (· < base)

/-- The integer written in a base. The digits in front are counted before anything behind them is
looked at. -/
def intOfText (base : Nat) (cs : List Char) : Except IntegerFault Int :=
  let (negative, body) := splitSign ((plainChars cs).dropWhile isNumberBlank)
  let body := dropBaseMark base body
  match dropSeparators (isDigitOf base) (body.takeWhile fun c => isDigitOf base c || c == '_') with
  | none => .error .form
  | some digits =>
    if digitLimit < digits.length && !isBinaryBase base then .error (.tooLong digits.length)
    else
      let rest := body.dropWhile fun c => isDigitOf base c || c == '_'
      match natOfDigits? base digits with
      | some n =>
        if rest.all isNumberBlank then .ok (if negative then -(n : Int) else n) else .error .form
      | none => .error .form

/-- The binary number nearest to `coefficient * 10 ^ exponent`. Exponents beyond the range of the
finite numbers are settled without computing the power. -/
def Binary64.ofScientific (negative : Bool) (coefficient : Nat) (exponent : Int) : Binary64 :=
  let length : Int := (Nat.toDigits 10 coefficient).length
  if coefficient = 0 || exponent + length < -400 then signedZero negative
  else if 400 < exponent + length then .infinite negative
  else if 0 ≤ exponent then ofRatio negative (coefficient * powerOfTen exponent.toNat) 1
  else ofRatio negative coefficient (powerOfTen (-exponent).toNat)

/-- The digits at the front. -/
private def spanDigits (cs : List Char) : List Char × List Char :=
  (cs.takeWhile Char.isDigit, cs.dropWhile Char.isDigit)

/-- The unsigned decimal with an optional fraction and exponent. -/
private def unsignedOfText? (negative : Bool) (cs : List Char) : Option Binary64 := do
  let (whole, afterWhole) := spanDigits cs
  let (fraction, afterFraction) := match afterWhole with
    | '.' :: rest => spanDigits rest
    | rest => ([], rest)
  let coefficient ← natOfDigits? 10 (whole ++ fraction)
  let exponent ← match afterFraction with
    | [] => some (0 : Int)
    | e :: rest =>
      if e == 'e' || e == 'E' then
        let (minus, digits) := splitSign rest
        (natOfDigits? 10 digits).map fun n => if minus then -(n : Int) else n
      else none
  return .ofScientific negative coefficient (exponent - fraction.length)

/-- The binary number nearest to a decimal text; the names of infinity and NaN are read in any
case. -/
def Binary64.ofText? (cs : List Char) : Option Binary64 :=
  let (negative, body) := splitSign (stripNumber (plainChars cs))
  let name := String.ofList (body.map Char.toLower)
  if name == "inf" || name == "infinity" then some (.infinite negative)
  else if name == "nan" then some .invalid
  else (dropSeparators Char.isDigit body).bind (unsignedOfText? negative)

end QueryTemplates
