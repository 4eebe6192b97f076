import QueryTemplates.Calendar.Pattern
import QueryTemplates.Placeholder.Object
import QueryTemplates.Placeholder.Spec

/-!
# Laying out values

A value is laid out as its specification says. Text is cut to the precision and padded. A number is
a sign, a mark of its base, digits in groups and a rest; padding goes to one of the sides or between
the mark and the digits, and zeros there are grouped like digits.

Models `SPEC_FULL.md` §11 (lines 202–203).
-/

namespace QueryTemplates

/-- Padding around a text. -/
def pad (fill : Char) (alignment : Alignment) (width : Nat) (cs : List Char) : List Char :=
  let padding := width - cs.length
  match alignment with
  | .left => cs ++ List.replicate padding fill
  | .center =>
    List.replicate (padding / 2) fill ++ cs ++ List.replicate (padding - padding / 2) fill
  | _ => List.replicate padding fill ++ cs

/-- The digits in groups of `size` from the right, as far as the digits or the zeros that fill
`least` places reach. Digits come with the last one first, and so does the result. -/
def groupReversed (size : Nat) (separator : Char) : Nat → List Char → Int → List Char
  | 0, digits, _ => digits
  | fuel + 1, digits, least =>
    let length := min size (max (max digits.length least.toNat) 1)
    let taken := digits.take length
    let group := taken ++ List.replicate (length - taken.length) '0'
    let rest := digits.drop length
    let least := least - length
    if rest.isEmpty && least ≤ 0 then group
    else group ++ separator :: groupReversed size separator fuel rest (least - 1)

/-- The digits in groups, with zeros in front to fill `least` places. -/
def groupDigits (separator : Option (Char × Nat)) (digits : List Char) (least : Int) : List Char :=
  match separator with
  | none => List.replicate (max least.toNat 1 - digits.length) '0' ++ digits
  | some (separator, size) =>
    (groupReversed size separator (digits.length + least.toNat + 1) digits.reverse least).reverse

/-- The parts of a written number. -/
structure NumberParts where
  negative : Bool
  mark : List Char
  digits : List Char
  rest : List Char

/-- The sign a number shows. -/
def signChars (option : Option SignOption) (negative : Bool) : List Char :=
  if negative then ['-']
  else match option with
    | some .always => ['+']
    | some .space => [' ']
    | _ => []

/-- The number with its sign, groups and padding. -/
def NumberParts.write (parts : NumberParts) (spec : FormatSpec) (groupSize : Nat) : List Char :=
  let sign := signChars spec.sign parts.negative
  let fixed : Int := sign.length + parts.mark.length + parts.rest.length
  let width : Int := (spec.width.getD 0 : Nat)
  let least := if spec.fill = '0' ∧ spec.alignment = .afterSign then width - fixed else 0
  let digits := if parts.digits.isEmpty then []
    else groupDigits (spec.separator.map fun s => (s.char, groupSize)) parts.digits least
  let padding := List.replicate (width - (fixed + digits.length)).toNat spec.fill
  match spec.alignment with
  | .afterSign => sign ++ parts.mark ++ padding ++ digits ++ parts.rest
  | alignment =>
    pad spec.fill alignment (spec.width.getD 0) (sign ++ parts.mark ++ digits ++ parts.rest)

/-- The text as its specification says. -/
def formatText (spec : FormatSpec) (s : String) : Except FormatError String := do
  match spec.sign with
  | some .space => throw .spaceForText
  | some _ => throw .signForText
  | none => pure ()
  if spec.noNegativeZero then throw .negativeZeroForText
  if spec.alternate then throw .alternateForText
  if spec.alignment = .afterSign then throw .alignmentForText
  let cs := match spec.precision with
    | some precision => s.toList.take precision
    | none => s.toList
  return String.ofList (pad spec.fill spec.alignment (spec.width.getD 0) cs)

/-- The base that a code stands for and the mark of that base. -/
def baseOf (code : Char) : Nat × List Char :=
  match code with
  | 'b' => (2, ['0', 'b'])
  | 'o' => (8, ['0', 'o'])
  | 'x' => (16, ['0', 'x'])
  | 'X' => (16, ['0', 'X'])
  | _ => (10, [])

/-- The integer as its specification says, its code being one for integers. -/
def formatInteger [Objects] (spec : FormatSpec) (n : Int) : Except FormatError String := do
  if spec.precision.isSome then throw .precisionForInteger
  if spec.noNegativeZero then throw .negativeZeroForInteger
  if spec.code = 'c' then
    if spec.sign.isSome then throw .signForCharacter
    if spec.alternate then throw .alternateForCharacter
    if n < -(powerOfTwo 63 : Int) ∨ (powerOfTwo 63 : Int) ≤ n then throw .integerTooLarge
    if n < 0 ∨ 0x110000 ≤ n then throw .noCharacter
    let parts : NumberParts := ⟨false, [], [], [characterOf n.toNat]⟩
    return String.ofList (parts.write spec 3)
  let (base, mark) := baseOf spec.code
  if base = 10 && isLongInteger n then throw .longInteger
  let digits := Nat.toDigits base n.natAbs
  let digits := if spec.code = 'X' then digits.map Char.toUpper else digits
  let parts : NumberParts :=
    ⟨decide (n < 0), if spec.alternate then mark else [], digits, []⟩
  return String.ofList (parts.write spec (if base = 10 then 3 else 4))

/-- The magnitude of a finite number as its code says: the text and whether all its digits are
zero. -/
def magnitudeText (code : Char) (precision : Option Nat) (alternate : Bool) (units : Nat)
    (shortest : Decimal) : List Char × Bool :=
  let general (precision : Nat) (pointZero : Bool) : List Char × Bool :=
    let precision := max precision 1
    let d := Decimal.significant precision units unitsPerOne
    let layout : Layout :=
      { withExponent := d.point ≤ -4 || (if pointZero then precision - 1 else precision) < d.point
        least := if alternate then precision else 0
        pointZero := pointZero
        keepPoint := alternate }
    (layout.write d.trimmed, d.trimmed.digits.isEmpty)
  match code with
  | 'e' =>
    let precision := precision.getD 6
    let d := Decimal.significant (precision + 1) units unitsPerOne
    let layout : Layout :=
      { withExponent := true, least := precision + 1, pointZero := false, keepPoint := alternate }
    (layout.write d, d.trimmed.digits.isEmpty)
  | 'f' =>
    let d := Decimal.fixed (precision.getD 6) units unitsPerOne
    let layout : Layout :=
      { withExponent := false, least := 0, pointZero := false, keepPoint := alternate }
    (layout.write d, d.trimmed.digits.isEmpty)
  | 'g' => general (precision.getD 6) false
  | _ =>
    match precision with
    | some precision => general precision true
    | none => (Layout.plain alternate shortest, units = 0)

/-- The binary number as its specification says, its code being one for binary numbers. -/
def formatBinary (spec : FormatSpec) (x : Binary64) : Except FormatError String := do
  if let some precision := spec.precision then
    if powerOfTwo 31 ≤ precision then throw .precisionTooBig
  let percent := spec.code = '%'
  let code := if percent then 'f' else if spec.code = 'n' then 'g' else spec.code.toLower
  let x := if percent then x.mul (.ofRatio false 100 1) else x
  let (negative, text) := match x with
    | .nan _ => (false, ['n', 'a', 'n'])
    | .infinite negative => (negative, ['i', 'n', 'f'])
    | .finite negative rank =>
      let (text, allZero) := magnitudeText code spec.precision spec.alternate (rankUnits rank)
        (Decimal.shortest rank)
      (negative && !(spec.noNegativeZero && allZero), text)
  let text := if spec.code.isUpper then text.map Char.toUpper else text
  let text := if percent then text ++ ['%'] else text
  let parts : NumberParts :=
    ⟨negative, [], text.takeWhile Char.isDigit, text.dropWhile Char.isDigit⟩
  return String.ofList (parts.write spec 3)

/-- The codes of integers. -/
def integerCodes : List Char := ['b', 'c', 'd', 'o', 'x', 'X', 'n']

/-- The codes of binary numbers. -/
def binaryCodes : List Char := ['e', 'E', 'f', 'F', 'g', 'G', '%']

/-- An integer, or a truth value counted as one, as the specification says. -/
def formatWhole [Objects] (kind : Kind) (n : Int) (cs : List Char) : Except FormatError String := do
  let spec ← FormatSpec.read kind .right 'd' cs
  if spec.code ∈ integerCodes then formatInteger spec n
  else if spec.code ∈ binaryCodes then
    match Binary64.ofInt? n with
    | some x => formatBinary spec x
    | none => throw .unrepresentable
  else throw (.unknownCode spec.code kind)

/-- The text of a value, if none of its integers has too many digits. -/
def shownText (v : Value) : Except FormatError String :=
  if v.hasLongInteger then .error .longInteger else .ok v.text

/-- The literal of a value, if none of its integers has too many digits. -/
def shownLiteral (v : Value) : Except FormatError String :=
  if v.hasLongInteger then .error .longInteger else .ok v.literal

/-- The value as the specification says. The empty specification asks for the plain text; that of a
date or a time is a pattern. -/
def formatValue [Objects] (v : Value) (cs : List Char) : Except FormatError String :=
  if cs.isEmpty then shownText v
  else match v with
    | .str s => do
      let spec ← FormatSpec.read .str .left 's' cs
      if spec.code = 's' then formatText spec s else throw (.unknownCode spec.code .str)
    | .int n => formatWhole .int n cs
    | .bool b => formatWhole .bool (if b then 1 else 0) cs
    | .float x => do
      let spec ← FormatSpec.read .float .right noCode cs
      if spec.code ∈ noCode :: 'n' :: binaryCodes then formatBinary spec x
      else throw (.unknownCode spec.code .float)
    | .scalar (.date d) => .ok (String.ofList (d.midnight.write cs))
    | .scalar (.datetime t) => .ok (String.ofList (t.write cs))
    | v => .error (.unsupported v.kind)

namespace Found

variable [Objects]

/-- The text of what was found. -/
def shownText : Reached → Except FormatError String
  | .value v => QueryTemplates.shownText v
  | .object o => .ok (Objects.text o)

/-- The literal of what was found. -/
def shownLiteral : Reached → Except FormatError String
  | .value v => QueryTemplates.shownLiteral v
  | .object o => .ok (Objects.literal o)

/-- What was found as the specification says; an object that is no data takes none. -/
def format : Reached → List Char → Except FormatError String
  | .value v, cs => formatValue v cs
  | .object o, cs =>
    if cs.isEmpty then .ok (Objects.text o) else .error (.unsupportedObject (Objects.kindName o))

end Found

end QueryTemplates
