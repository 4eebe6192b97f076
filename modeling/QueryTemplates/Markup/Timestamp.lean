import QueryTemplates.Calendar

/-!
# Written dates and times

A date has four digits for the year and one or two for month and day. A time may follow behind a
letter or blanks, with a fraction of a second and an offset from universal time.
-/

namespace QueryTemplates

/-- The time in a written timestamp. -/
structure WrittenTime where
  hour : Nat
  minute : Nat
  second : Nat
  microsecond : Nat
  /-- The offset in minutes. -/
  offset : Option Int

/-- A date, and perhaps a time, as written. -/
structure WrittenTimestamp where
  year : Nat
  month : Nat
  day : Nat
  /-- Month and day have two digits each. -/
  padded : Bool
  time : Option WrittenTime

/-- The value of decimal digits. -/
def decimalValue (cs : List Char) : Nat :=
  cs.foldl (fun n c => n * 10 + (c.toNat - '0'.toNat)) 0

/-- From `least` to `most` digits in front and what follows. -/
def readDigits? (least most : Nat) (cs : List Char) : Option (List Char × List Char) :=
  let digits := (cs.take most).takeWhile Char.isDigit
  if digits.length < least then none else some (digits, cs.drop digits.length)

/-- The character in front is passed over. -/
def readMark? (mark : Char) : List Char → Option (List Char)
  | c :: rest => if c = mark then some rest else none
  | [] => none

/-- The character is a blank or a tab. -/
def isSpaceOrTab (c : Char) : Bool := c == ' ' || c == '\t'

/-- The first six digits of a fraction as microseconds. -/
def microseconds (digits : List Char) : Nat :=
  let six := digits.take 6
  decimalValue (six ++ List.replicate (6 - six.length) '0')

/-- The fraction of a second in front, if there is one. -/
def readFraction (cs : List Char) : Nat × List Char :=
  match cs with
  | '.' :: rest => (microseconds (rest.takeWhile Char.isDigit), rest.dropWhile Char.isDigit)
  | _ => (0, cs)

/-- The offset that all of the text gives. -/
def readOffset? (cs : List Char) : Option (Option Int) :=
  if cs.isEmpty then some none
  else
    match cs.dropWhile isSpaceOrTab with
    | ['Z'] => some (some 0)
    | sign :: rest => do
      if sign != '+' && sign != '-' then none
      else
        let (hours, rest) ← readDigits? 1 2 rest
        let minutes ← match rest with
          | [] => some []
          | ':' :: rest => match readDigits? 2 2 rest with
            | some (minutes, []) => some minutes
            | _ => none
          | _ => none
        let total : Int := decimalValue hours * 60 + decimalValue minutes
        return some (if sign == '-' then -total else total)
    | [] => none

/-- The time that all of the text gives. -/
def readTime? (cs : List Char) : Option WrittenTime := do
  let (hour, rest) ← readDigits? 1 2 cs
  let rest ← readMark? ':' rest
  let (minute, rest) ← readDigits? 2 2 rest
  let rest ← readMark? ':' rest
  let (second, rest) ← readDigits? 2 2 rest
  let (microsecond, rest) := readFraction rest
  let offset ← readOffset? rest
  return ⟨decimalValue hour, decimalValue minute, decimalValue second, microsecond, offset⟩

/-- The date and time that all of the text gives. -/
def readTimestamp? (cs : List Char) : Option WrittenTimestamp := do
  let (year, rest) ← readDigits? 4 4 cs
  let rest ← readMark? '-' rest
  let (month, rest) ← readDigits? 1 2 rest
  let rest ← readMark? '-' rest
  let (day, rest) ← readDigits? 1 2 rest
  let time ← match rest with
    | [] => some none
    | c :: behind =>
      if c == 'T' || c == 't' then some <$> readTime? behind
      else if isSpaceOrTab c then some <$> readTime? (behind.dropWhile isSpaceOrTab)
      else none
  return ⟨decimalValue year, decimalValue month, decimalValue day,
    month.length == 2 && day.length == 2, time⟩

end QueryTemplates
