import QueryTemplates.Calendar

/-!
# Patterns of dates and times

A pattern is text in which a percent sign and a letter stand for a part of a date or time: `%d` for
the day, `%H` for the hour, `%A` for the name of the weekday. Flags and a width may stand between
the two and change case and padding. What names no part stands for itself.

Values are laid out in template texts, `SPEC_FULL.md` §11 (lines 202–203).
-/

namespace QueryTemplates

/-- The number of days of a year. -/
def daysInYear (year : Nat) : Nat := if isLeapYear year then 366 else 365

namespace Date

/-- The number of days since the first of January. -/
def dayOfYear (d : Date) : Nat := d.dayNumber - (Date.mk d.year 1 1).dayNumber

/-- The day of the week, counted from Monday as zero. -/
def weekday (d : Date) : Nat := d.dayNumber % 7

/-- The year that the Thursday of the week belongs to, and the number of the week in it. -/
def yearAndWeek (d : Date) : Nat × Nat :=
  let thursday : Int := d.dayOfYear - d.weekday + 3
  if thursday < 0 then (d.year - 1, (thursday + daysInYear (d.year - 1)).toNat / 7 + 1)
  else if (daysInYear d.year : Int) ≤ thursday then
    (d.year + 1, (thursday - daysInYear d.year).toNat / 7 + 1)
  else (d.year, thursday.toNat / 7 + 1)

/-- The first moment of a day. -/
def midnight (d : Date) : DateTime := ⟨d, 0, 0, 0, 0, none⟩

end Date

/-- The names of the days of the week, from Monday on. -/
def weekdayNames : List String :=
  ["Monday", "Tuesday", "Wednesday", "Thursday", "Friday", "Saturday", "Sunday"]

/-- The names of the months. -/
def monthNames : List String :=
  ["January", "February", "March", "April", "May", "June", "July", "August", "September",
    "October", "November", "December"]

/-- How a part is written: what pads it, in which case its letters are, and its least width. -/
structure PartStyle where
  /-- A zero or an underscore for the padding of numbers, a minus for none. -/
  padding : Option Char := none
  capitals : Bool := false
  otherCase : Bool := false
  width : Nat := 0

namespace PartStyle

/-- The flags in front, and what follows them. -/
def readFlags (style : PartStyle) : List Char → PartStyle × List Char
  | '_' :: rest => readFlags { style with padding := some '_' } rest
  | '-' :: rest => readFlags { style with padding := some '-' } rest
  | '0' :: rest => readFlags { style with padding := some '0' } rest
  | '^' :: rest => readFlags { style with capitals := true } rest
  | '#' :: rest => readFlags { style with otherCase := true } rest
  | rest => (style, rest)

/-- The flags and the width in front, and what follows them. -/
def read (cs : List Char) : PartStyle × List Char :=
  let (style, rest) := readFlags {} cs
  let digits := rest.takeWhile Char.isDigit
  let width := digits.foldl (fun n c => n * 10 + (c.toNat - '0'.toNat)) 0
  ({ style with width }, rest.dropWhile Char.isDigit)

/-- A text with padding in front of it. -/
def fit (style : PartStyle) (cs : List Char) : List Char :=
  List.replicate (style.width - cs.length) (if style.padding = some '0' then '0' else ' ') ++ cs

/-- A name or another text. -/
def text (style : PartStyle) (cs : List Char) : List Char :=
  style.fit (if style.capitals then cs.map Char.toUpper else cs)

/-- A number of `least` digits at least, padded by `usual` unless a flag says otherwise. -/
def number (style : PartStyle) (usual : Char) (least value : Nat) : List Char :=
  let digits := Nat.toDigits 10 value
  let missing := max least style.width - digits.length
  match style.padding.getD usual with
  | '-' => style.fit digits
  | '_' => List.replicate missing ' ' ++ digits
  | _ => List.replicate missing '0' ++ digits

end PartStyle

namespace DateTime

/-- The hour on a clock of twelve hours. -/
def clockHour (t : DateTime) : Nat := if t.hour % 12 = 0 then 12 else t.hour % 12

/-- The number of the week of the year, whose first day has the given distance from Monday. -/
def weekOfYear (t : DateTime) (firstDay : Nat) : Nat :=
  (t.date.dayOfYear + 7 - (t.date.weekday + 7 - firstDay) % 7) / 7

/-- The number of days from the first of January of year 1 to that of the year 1970. -/
def daysBeforeEpoch : Nat := (Date.mk 1970 1 1).dayNumber

/-- The seconds since the beginning of the year 1970, offsets not counted. -/
def epochSecond (t : DateTime) : Int :=
  (((t.date.dayNumber : Int) - daysBeforeEpoch) * 24 + t.hour) * 3600 + t.minute * 60 + t.second

/-- The half of the day. -/
def halfOfDay (t : DateTime) : String := if t.hour < 12 then "AM" else "PM"

/-- A part of a date or time that is a number: what pads it, its least number of digits, and its
value. -/
def numberPart? (t : DateTime) : Char → Option (Char × Nat × Nat)
  | 'C' => some ('0', 1, t.date.year / 100)
  | 'd' => some ('0', 2, t.date.day)
  | 'e' => some ('_', 2, t.date.day)
  | 'g' => some ('0', 2, t.date.yearAndWeek.1 % 100)
  | 'G' => some ('0', 1, t.date.yearAndWeek.1)
  | 'H' => some ('0', 2, t.hour)
  | 'I' => some ('0', 2, t.clockHour)
  | 'j' => some ('0', 3, t.date.dayOfYear + 1)
  | 'k' => some ('_', 2, t.hour)
  | 'l' => some ('_', 2, t.clockHour)
  | 'm' => some ('0', 2, t.date.month)
  | 'M' => some ('0', 2, t.minute)
  | 'S' => some ('0', 2, t.second)
  | 'u' => some ('0', 1, t.date.weekday + 1)
  | 'U' => some ('0', 2, t.weekOfYear 6)
  | 'V' => some ('0', 2, t.date.yearAndWeek.2)
  | 'w' => some ('0', 1, (t.date.weekday + 1) % 7)
  | 'W' => some ('0', 2, t.weekOfYear 0)
  | 'y' => some ('0', 2, t.date.year % 100)
  | 'Y' => some ('0', 1, t.date.year)
  | _ => none

/-- A part of a date or time that is a text. -/
def textPart? (t : DateTime) (style : PartStyle) (code : Char) : Option (List Char) :=
  let name (s : String) : List Char :=
    { style with capitals := style.capitals || style.otherCase }.text s.toList
  let weekday := weekdayNames.getD t.date.weekday ""
  let month := monthNames.getD (t.date.month - 1) ""
  let half := t.halfOfDay.toList
  match code with
  | 'a' => some (name (String.ofList (weekday.toList.take 3)))
  | 'A' => some (name weekday)
  | 'b' => some (name (String.ofList (month.toList.take 3)))
  | 'h' => some (name (String.ofList (month.toList.take 3)))
  | 'B' => some (name month)
  | 'p' => some (if style.otherCase then style.fit (half.map Char.toLower) else style.text half)
  | 'P' => some (style.fit (half.map Char.toLower))
  | 's' => some (style.fit (toString t.epochSecond).toList)
  | 'n' => some (style.fit ['\n'])
  | 't' => some (style.fit ['\t'])
  | 'z' => some []
  | 'Z' => some (style.fit [])
  | '%' => some (style.fit ['%'])
  | _ => none

/-- The pattern that a part stands for. -/
def composite? : Char → Option String
  | 'c' => some "%a %b %e %H:%M:%S %Y"
  | 'D' => some "%m/%d/%y"
  | 'F' => some "%Y-%m-%d"
  | 'r' => some "%I:%M:%S %p"
  | 'R' => some "%H:%M"
  | 'T' => some "%H:%M:%S"
  | 'x' => some "%m/%d/%y"
  | 'X' => some "%H:%M:%S"
  | _ => none

/-- A part that stands for no pattern. -/
def plainPart? (t : DateTime) (style : PartStyle) (code : Char) : Option (List Char) :=
  match t.numberPart? code with
  | some (usual, least, value) => some (style.number usual least value)
  | none => t.textPart? style code

/-- A pattern without flags whose parts stand for no patterns. -/
def writeSimple (t : DateTime) : List Char → List Char
  | '%' :: code :: rest => (t.plainPart? {} code).getD ['%', code] ++ writeSimple t rest
  | c :: rest => c :: writeSimple t rest
  | [] => []

/-- A part of a date or time. -/
def part? (t : DateTime) (style : PartStyle) (code : Char) : Option (List Char) :=
  match composite? code with
  | some pattern => some (style.text (t.writeSimple pattern.toList))
  | none => t.plainPart? style code

/-- The mark of an alternative form may not stand in front of the letter of a part. -/
def refusesMark (mark code : Char) : Bool :=
  let letters : List Char :=
    if mark = 'E' then
      ['a', 'A', 'b', 'B', 'd', 'D', 'e', 'F', 'g', 'G', 'h', 'H', 'I', 'j', 'k', 'l', 'm', 'M',
        'S', 'U', 'V', 'w', 'W', '%']
    else ['a', 'A', 'c', 'C', 'D', 'F', 'x', 'X', 'Y', '%']
  letters.contains code

/-- The mark of an alternative form in front, and what follows it. -/
def readMark : List Char → Option Char × List Char
  | 'E' :: rest => (some 'E', rest)
  | 'O' :: rest => (some 'O', rest)
  | rest => (none, rest)

/-- The part behind a percent sign and the rest of the pattern. The alternative forms are the usual
ones. -/
def readPart (t : DateTime) (cs : List Char) : List Char × List Char :=
  match (readMark (PartStyle.read cs).2).2 with
  | [] => ((PartStyle.read cs).1.text ('%' :: cs), [])
  | code :: rest =>
    let style := (PartStyle.read cs).1
    let mark := (readMark (PartStyle.read cs).2).1
    let written := if mark.any (refusesMark · code) then none else t.part? style code
    (written.getD (style.text ('%' :: cs.take (cs.length - rest.length))), rest)

/-- The offset as a sign and four digits. -/
def offsetDigits (t : DateTime) : List Char :=
  match t.offset with
  | some minutes => (offsetText minutes).toList.filter (· != ':')
  | none => []

/-- The name of the place of an offset. -/
def offsetName (t : DateTime) : List Char :=
  match t.offset with
  | some minutes => ("UTC" ++ (if minutes = 0 then "" else offsetText minutes)).toList
  | none => []

/-- The pattern with the offset and the microseconds filled in. -/
def fillOffset (t : DateTime) : List Char → List Char
  | '%' :: 'z' :: rest => t.offsetDigits ++ fillOffset t rest
  | '%' :: 'Z' :: rest => t.offsetName ++ fillOffset t rest
  | '%' :: 'f' :: rest => (zeroFilled 6 t.microsecond).toList ++ fillOffset t rest
  | '%' :: c :: rest => '%' :: c :: fillOffset t rest
  | c :: rest => c :: fillOffset t rest
  | [] => []

/-- Flags are read off the front, and no characters are added behind them. -/
theorem length_readFlags (style : PartStyle) (cs : List Char) :
    (PartStyle.readFlags style cs).2.length ≤ cs.length := by
  induction cs generalizing style with
  | nil => simp [PartStyle.readFlags]
  | cons c rest ih =>
    unfold PartStyle.readFlags
    split
    all_goals first
      | exact Nat.le_refl _
      | (next heq => cases heq; exact Nat.le_succ_of_le (ih _))

theorem length_read (cs : List Char) : (PartStyle.read cs).2.length ≤ cs.length :=
  Nat.le_trans (List.dropWhile_sublist _).length_le (length_readFlags {} cs)

/-- Reading the mark of a part goes on in the text, if anywhere. -/
theorem length_readMark (cs : List Char) : (readMark cs).2.length ≤ cs.length := by
  unfold readMark
  split <;> simp

/-- A part of a pattern leaves no more characters than there were. -/
theorem length_readPart (t : DateTime) (cs : List Char) :
    (t.readPart cs).2.length ≤ cs.length := by
  have h := Nat.le_trans (length_readMark (PartStyle.read cs).2) (length_read cs)
  unfold readPart
  split
  · simp
  · next hb => rw [hb] at h; exact Nat.le_of_succ_le h

/-- The parts of a pattern written out. -/
def writeParts (t : DateTime) (cs : List Char) : List Char :=
  match cs with
  | [] => []
  | '%' :: rest =>
    have := t.length_readPart rest
    (t.readPart rest).1 ++ writeParts t (t.readPart rest).2
  | c :: rest => c :: writeParts t rest
termination_by cs.length
decreasing_by
  · simp only [List.length_cons]; omega
  · simp

/-- A date or time as a pattern shows it. A pattern ends at the first character that is zero. What
is long beyond measure for its pattern is not written at all. -/
def write (t : DateTime) (pattern : List Char) : List Char :=
  let filled := t.fillOffset (pattern.takeWhile (· != '\x00'))
  let written := t.writeParts filled
  if written.length < max 1024 (256 * filled.length).nextPowerOfTwo then written else []

end DateTime

end QueryTemplates
