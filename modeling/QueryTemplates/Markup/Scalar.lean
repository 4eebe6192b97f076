import QueryTemplates.Markup.Implicit
import QueryTemplates.Number.Reading
import QueryTemplates.Text.Lowercase
import QueryTemplates.Value.Basic

/-!
# Values of scalars

The text of a scalar becomes a value as its tag says. Underscores in numbers are passed over;
integers may be written in four bases, and both integers and decimals in parts of sixty.

Documents are those of `SPEC_FULL.md` §10.3 (lines 166–167).
-/

namespace QueryTemplates

/-- The parts of a text between colons. -/
def colonParts : List Char → List (List Char)
  | [] => [[]]
  | c :: rest =>
    match colonParts rest with
    | [] => [[c]]
    | part :: parts => if c = ':' then [] :: part :: parts else (c :: part) :: parts

/-- Splits a sign off the digits of a number; `true` is a minus. -/
def signedDigits (cs : List Char) : Except DocumentError (Bool × List Char) :=
  match cs with
  | [] => .error .noDigit
  | '-' :: rest => .ok (true, rest)
  | '+' :: rest => .ok (false, rest)
  | cs => .ok (false, cs)

/-- An integer in a base. -/
def integerIn (base : Nat) (cs : List Char) : Except DocumentError Int :=
  match intOfText base cs with
  | .ok n => .ok n
  | .error .form => .error (.integer base (String.ofList cs))
  | .error (.tooLong digits) => .error (.longInteger digits)

/-- An unsigned integer by its form. -/
def integerOf (cs : List Char) : Except DocumentError Int :=
  match cs with
  | [] => .error .noDigit
  | ['0'] => .ok 0
  | '0' :: 'b' :: rest => integerIn 2 rest
  | '0' :: 'x' :: rest => integerIn 16 rest
  | '0' :: _ => integerIn 8 cs
  | _ =>
    if cs.contains ':' then do
      let parts ← (colonParts cs).mapM (integerIn 10)
      return parts.foldl (fun total part => total * 60 + part) 0
    else integerIn 10 cs

/-- The value of an integer. -/
def integerValue (text : String) : Except DocumentError Scalar := do
  let (negative, digits) ← signedDigits (text.toList.filter (· != '_'))
  let n ← integerOf digits
  return .int (if negative then -n else n)

/-- A decimal number. -/
def decimalOf (cs : List Char) : Except DocumentError Binary64 :=
  match Binary64.ofText? cs with
  | some x => .ok x
  | none => .error (.decimal (String.ofList cs))

/-- The sum of parts, the last one counted once and each one before it sixty times as much; every
weight must have a binary number near it. -/
def sexagesimalSum (parts : List Binary64) : Except DocumentError Binary64 := do
  let (total, _) ← parts.reverse.foldlM (fun (total, weight) part =>
    match Binary64.ofInt? weight with
    | some factor => .ok (total.add (part.mul factor), weight * 60)
    | none => .error .unrepresentable) (Binary64.zero, (1 : Int))
  return total

/-- What is not a number gets a payload; every other number stays as it is. -/
def withPayload (payload : Nat) : Binary64 → Binary64
  | .nan _ => .nan payload
  | x => x

/-- The value of a decimal number. All words for what is not a number are one value; where a
computation gives it, it is a value of its own for every `origin`. -/
def decimalNumber (origin : Nat) (text : String) : Except DocumentError Scalar := do
  let plain := String.ofList (text.toList.filter (· != '_'))
  let (negative, digits) ← signedDigits (lowerCase plain).toList
  if String.ofList digits == ".nan" then return .float (.nan 0)
  let x ←
    if String.ofList digits == ".inf" then pure (Binary64.infinite false)
    else if digits.contains ':' then do sexagesimalSum (← (colonParts digits).mapM decimalOf)
    else decimalOf digits
  return .float (withPayload (origin + 1) (if negative then x.neg else x))

/-- The value of a truth word in any case. -/
def truthValue (text : String) : Except DocumentError Scalar :=
  let word := lowerCase text
  if ["yes", "true", "on"].contains word then .ok (.bool true)
  else if ["no", "false", "off"].contains word then .ok (.bool false)
  else .error (.truth word)

/-- The value of a date or a time. -/
def timestampValue (text : String) : Except DocumentError Scalar :=
  match readTimestamp? (dropLastFeed text.toList) with
  | none => .error .timestamp
  | some written =>
    match written.time with
    | none =>
      ((Date.make written.year written.month written.day).mapError .calendar).map fun d =>
        .date d
    | some time =>
      ((DateTime.make written.year written.month written.day time.hour time.minute time.second
        time.microsecond time.offset).mapError .calendar).map fun t => .datetime t

/-- The value of a character in base 64. -/
def base64Digit? (c : Char) : Option Nat :=
  if 'A' ≤ c ∧ c ≤ 'Z' then some (c.toNat - 'A'.toNat)
  else if 'a' ≤ c ∧ c ≤ 'z' then some (c.toNat - 'a'.toNat + 26)
  else if c.isDigit then some (c.toNat - '0'.toNat + 52)
  else if c = '+' then some 62
  else if c = '/' then some 63
  else none

/-- The bytes of base 64: `place` counts the characters of the group begun, `left` holds the bits
kept from the last one, and `pads` counts padding. Other characters are passed over, and a full
padding ends the text. -/
def base64Bytes (place left pads : Nat) : List Char → Option (List UInt8)
  | [] => if place = 0 then some [] else none
  | c :: rest =>
    if c = '=' then
      if 2 ≤ place then
        if 4 ≤ place + pads + 1 then some [] else base64Bytes place left (pads + 1) rest
      else base64Bytes place left pads rest
    else match base64Digit? c with
      | none => base64Bytes place left pads rest
      | some d =>
        if place = 0 then base64Bytes 1 d 0 rest
        else if place = 1 then
          (base64Bytes 2 (d % 16) 0 rest).map (UInt8.ofNat (left * 4 + d / 16) :: ·)
        else if place = 2 then
          (base64Bytes 3 (d % 4) 0 rest).map (UInt8.ofNat (left * 16 + d / 4) :: ·)
        else (base64Bytes 0 0 0 rest).map (UInt8.ofNat (left * 64 + d) :: ·)

/-- The value of bytes in base 64. -/
def binaryValue (text : String) : Except DocumentError Scalar :=
  if text.toList.any fun c => 127 < c.toNat then .error (.markup .badBinary)
  else match base64Bytes 0 0 0 text.toList with
    | some bytes => .ok (.bytes bytes)
    | none => .error (.markup .badBinary)

/-- The value of a scalar; `origin` is a number of its own. -/
def scalarValue (tag : Tag) (origin : Nat) (text : String) : Except DocumentError Scalar :=
  match tag with
  | .null => .ok .null
  | .bool => truthValue text
  | .int => integerValue text
  | .float => decimalNumber origin text
  | .str => .ok (.str text)
  | .timestamp => timestampValue text
  | .binary => binaryValue text
  | .sequence | .mapping | .pairs | .set => .error (.markup .wrongParts)
  | .merge | .value | .other _ => .error (.markup .unknownTag)

end QueryTemplates
