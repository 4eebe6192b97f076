import QueryTemplates.Text.DecimalDigit
import QueryTemplates.Value.Access

/-!
# Format specifications

A specification says how a value is laid out in a placeholder: fill and alignment, sign, alternate
form, width, separator of thousands, precision, and a code for the kind of text wanted. It is read
from left to right; what remains behind the precision is at most the code.

Models `SPEC_FULL.md` §11 (lines 202–203).
-/

namespace QueryTemplates

/-- Where padding goes. -/
inductive Alignment where
  | left
  | right
  | center
  /-- Between the sign and the digits. -/
  | afterSign
deriving DecidableEq

/-- When a number shows a sign. -/
inductive SignOption where
  | always
  | negative
  | space
deriving DecidableEq

/-- What stands between groups of digits. -/
inductive Separator where
  | comma
  | underscore
deriving DecidableEq

/-- The character of a separator. -/
def Separator.char : Separator → Char
  | .comma => ','
  | .underscore => '_'

/-- How a value is laid out. -/
structure FormatSpec where
  fill : Char
  alignment : Alignment
  sign : Option SignOption
  noNegativeZero : Bool
  alternate : Bool
  width : Option Nat
  separator : Option Separator
  precision : Option Nat
  code : Char
deriving DecidableEq

/-- Why a value cannot be laid out. -/
inductive FormatError where
  | tooManyDigits
  | twoSeparators
  | missingPrecision
  | invalid (spec : String) (kind : Kind)
  | separatorWithCode (separator : Separator) (code : Char)
  | unknownCode (code : Char) (kind : Kind)
  | spaceForText
  | signForText
  | negativeZeroForText
  | alternateForText
  | alignmentForText
  | precisionForInteger
  | negativeZeroForInteger
  | signForCharacter
  | alternateForCharacter
  | precisionTooBig
  | noCharacter
  | integerTooLarge
  | unrepresentable
  /-- The integer has too many digits. -/
  | longInteger
  | unsupported (kind : Kind)
  /-- An object that is no data takes no specification; its kind has the name. -/
  | unsupportedObject (kindName : String)

/-- The character of a code, or its number when it is no visible character of ASCII. -/
private def codeText (code : Char) : String :=
  if 32 < code.toNat ∧ code.toNat < 128 then String.singleton code
  else "\\x" ++ String.ofList (Nat.toDigits 16 code.toNat)

/-- The cause in words. -/
def FormatError.message : FormatError → String
  | .tooManyDigits => "Too many decimal digits in format string"
  | .twoSeparators => "Cannot specify both ',' and '_'."
  | .missingPrecision => "Format specifier missing precision"
  | .invalid spec kind =>
    "Invalid format specifier '" ++ spec ++ "' for object of type '" ++ kind.longName ++ "'"
  | .separatorWithCode separator code =>
    "Cannot specify '" ++ String.singleton separator.char ++ "' with '" ++ codeText code ++ "'."
  | .unknownCode code kind =>
    "Unknown format code '" ++ codeText code ++ "' for object of type '" ++ kind.longName ++ "'"
  | .spaceForText => "Space not allowed in string format specifier"
  | .signForText => "Sign not allowed in string format specifier"
  | .negativeZeroForText =>
    "Negative zero coercion (z) not allowed in string format specifier"
  | .alternateForText => "Alternate form (#) not allowed in string format specifier"
  | .alignmentForText => "'=' alignment not allowed in string format specifier"
  | .precisionForInteger => "Precision not allowed in integer format specifier"
  | .negativeZeroForInteger =>
    "Negative zero coercion (z) not allowed in integer format specifier"
  | .signForCharacter => "Sign not allowed with integer format specifier 'c'"
  | .alternateForCharacter =>
    "Alternate form (#) not allowed with integer format specifier 'c'"
  | .precisionTooBig => "precision too big"
  | .noCharacter => "%c arg not in range(0x110000)"
  | .integerTooLarge => "Python int too large to convert to C long"
  | .unrepresentable => "int too large to convert to float"
  | .longInteger => digitLimitMessage none
  | .unsupported kind =>
    "unsupported format string passed to " ++ kind.longName ++ ".__format__"
  | .unsupportedObject kindName =>
    "unsupported format string passed to " ++ kindName ++ ".__format__"

/-- The code of a number without a code. -/
def noCode : Char := '\x00'

/-- The largest count a specification or an index may give. -/
def greatestCount : Nat := powerOfTwo 63 - 1

/-- Reads the decimal digits in front: their value, how many there are, and the rest. -/
def readCount (value digits : Nat) : List Char → Except FormatError (Nat × Nat × List Char)
  | [] => .ok (value, digits, [])
  | c :: rest =>
    match decimalDigit? c with
    | none => .ok (value, digits, c :: rest)
    | some d =>
      if greatestCount < value * 10 + d then .error .tooManyDigits
      else readCount (value * 10 + d) (digits + 1) rest

/-- The alignment a character stands for. -/
def alignmentOf? : Char → Option Alignment
  | '<' => some .left
  | '>' => some .right
  | '^' => some .center
  | '=' => some .afterSign
  | _ => none

/-- The sign option a character stands for. -/
def signOf? : Char → Option SignOption
  | '+' => some .always
  | '-' => some .negative
  | ' ' => some .space
  | _ => none

namespace FormatSpec

/-- The fill and the alignment in front. -/
private def readAlignment : List Char → Option Char × Option Alignment × List Char
  | a :: b :: rest =>
    match alignmentOf? b, alignmentOf? a with
    | some alignment, _ => (some a, some alignment, rest)
    | none, some alignment => (none, some alignment, b :: rest)
    | none, none => (none, none, a :: b :: rest)
  | [a] =>
    match alignmentOf? a with
    | some alignment => (none, some alignment, [])
    | none => (none, none, [a])
  | [] => (none, none, [])

/-- A character in front, if it is the one wanted. -/
private def readMark (mark : Char) : List Char → Bool × List Char
  | c :: rest => if c = mark then (true, rest) else (false, c :: rest)
  | [] => (false, [])

/-- The sign option in front. -/
private def readSign : List Char → Option SignOption × List Char
  | c :: rest =>
    match signOf? c with
    | some sign => (some sign, rest)
    | none => (none, c :: rest)
  | [] => (none, [])

/-- The separator in front; a comma and an underscore exclude each other. -/
def readSeparator (cs : List Char) : Except FormatError (Option Separator × List Char) :=
  let (comma, cs) := readMark ',' cs
  let (underscore, cs) := readMark '_' cs
  if comma && underscore then .error .twoSeparators
  else if underscore && (readMark ',' cs).1 then .error .twoSeparators
  else .ok (if comma then some .comma else if underscore then some .underscore else none, cs)

/-- The precision in front. -/
def readPrecision : List Char → Except FormatError (Option Nat × List Char)
  | '.' :: rest => do
    let (value, digits, rest) ← readCount 0 0 rest
    if digits = 0 then throw .missingPrecision
    return (some value, rest)
  | cs => .ok (none, cs)

/-- Separators go with decimal numbers, underscores also with the other bases. -/
private def separatorFits (separator : Separator) (code : Char) : Bool :=
  if code ∈ ['d', 'e', 'f', 'g', 'E', 'G', '%', 'F', noCode] then true
  else separator == .underscore && code ∈ ['b', 'o', 'x', 'X']

/-- The specification written by `cs` for a value of some kind, which has a natural alignment and
a natural code. -/
def read (kind : Kind) (alignment : Alignment) (code : Char) (cs : List Char) :
    Except FormatError FormatSpec := do
  let (fill, wanted, rest) := readAlignment cs
  let (sign, rest) := readSign rest
  let (noNegativeZero, rest) := readMark 'z' rest
  let (alternate, rest) := readMark '#' rest
  let (zeroFill, rest) := if fill.isNone then readMark '0' rest else (false, rest)
  let (width, digits, rest) ← readCount 0 0 rest
  let (separator, rest) ← readSeparator rest
  let (precision, rest) ← readPrecision rest
  let code ← match rest with
    | [] => pure code
    | [c] => pure c
    | _ => throw (.invalid (String.ofList cs) kind)
  if let some separator := separator then
    if !separatorFits separator code then throw (.separatorWithCode separator code)
  return {
    fill := if zeroFill then '0' else fill.getD ' '
    alignment :=
      if zeroFill && wanted.isNone && alignment == .right then .afterSign
      else wanted.getD alignment
    sign := sign
    noNegativeZero := noNegativeZero
    alternate := alternate
    width := if digits = 0 then none else some width
    separator := separator
    precision := precision
    code := code }

end FormatSpec

end QueryTemplates
