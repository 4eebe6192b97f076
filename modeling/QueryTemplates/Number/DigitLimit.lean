import QueryTemplates.Number.Power

/-!
# The length of written integers

Decimal text is turned into an integer, and an integer into decimal text, only up to a number of
digits: both take time that grows faster than the length. Bases that are powers of two are not
limited.
-/

namespace QueryTemplates

/-- The greatest number of decimal digits that is read or written. -/
def digitLimit : Nat := 4300

/-- The least magnitude that has more digits. -/
def longMagnitude : Nat := powerOfTen digitLimit

/-- The integer has too many decimal digits to be written. -/
def isLongInteger (n : Int) : Bool := longMagnitude ≤ n.natAbs

/-- The refusal of too many digits; `given` tells their number where it is known. -/
def digitLimitMessage (given : Option Nat) : String :=
  "Exceeds the limit (" ++ toString digitLimit ++ " digits) for integer string conversion"
    ++ (match given with
      | some count => ": value has " ++ toString count ++ " digits"
      | none => "")
    ++ "; use sys.set_int_max_str_digits() to increase the limit"

end QueryTemplates
