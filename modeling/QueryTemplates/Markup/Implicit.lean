import QueryTemplates.Markup.Node
import QueryTemplates.Markup.Timestamp

/-!
# Tags of plain scalars

A plain scalar without a tag is read by its form: truth values, null, numbers, dates, and the two
marks for merging and for the value of a mapping. Everything else is text. A line feed at the end
does not count.

Documents are those of `SPEC_FULL.md` §10.3 (lines 166–167).
-/

namespace QueryTemplates

/-- The text without one line feed at its end. -/
def dropLastFeed (cs : List Char) : List Char :=
  if cs.getLast? == some '\n' then cs.dropLast else cs

/-- The text without a sign in front. -/
def dropSign : List Char → List Char
  | '+' :: rest => rest
  | '-' :: rest => rest
  | cs => cs

/-- A digit or an underscore. -/
def isDigitOrScore (c : Char) : Bool := c.isDigit || c == '_'

/-- One part of a number at least, and each of one or two digits that count up to 59. -/
def isSexagesimalTail (cs : List Char) : Bool :=
  go 0 cs
where
  /-- Reads parts; `count` of them stand in front. -/
  go (count : Nat) : List Char → Bool
    | [] => 0 < count
    | ':' :: a :: b :: rest =>
      if a.isDigit && b.isDigit then '0' ≤ a && a ≤ '5' && go (count + 1) rest
      else a.isDigit && go (count + 1) (b :: rest)
    | [':', a] => a.isDigit
    | _ => false

/-- The form of an integer. -/
def isIntForm (cs : List Char) : Bool :=
  match dropSign cs with
  | ['0'] => true
  | '0' :: 'b' :: rest => !rest.isEmpty && rest.all fun c => c == '0' || c == '1' || c == '_'
  | '0' :: 'x' :: rest =>
    !rest.isEmpty && rest.all fun c =>
      isDigitOrScore c || ('a' ≤ c && c ≤ 'f') || ('A' ≤ c && c ≤ 'F')
  | '0' :: rest => rest.all fun c => ('0' ≤ c && c ≤ '7') || c == '_'
  | c :: rest =>
    c.isDigit &&
      (match rest.dropWhile isDigitOrScore with
        | [] => true
        | tail => isSexagesimalTail tail)
  | [] => false

/-- The exponent of a number, which needs a sign; it may be absent. -/
def isExponentForm : List Char → Bool
  | [] => true
  | e :: sign :: digits =>
    (e == 'e' || e == 'E') && (sign == '+' || sign == '-') && !digits.isEmpty
      && digits.all Char.isDigit
  | _ => false

/-- The form of a number with a point. -/
def isFloatForm (cs : List Char) : Bool :=
  let name := String.ofList (dropSign cs)
  if name == ".inf" || name == ".Inf" || name == ".INF" then true
  else if [".nan", ".NaN", ".NAN"].contains (String.ofList cs) then true
  else match cs with
    | '.' :: c :: rest => c.isDigit && isExponentForm (rest.dropWhile isDigitOrScore)
    | _ =>
      match dropSign cs with
      | c :: rest =>
        c.isDigit &&
          (match rest.dropWhile isDigitOrScore with
            | '.' :: tail => isExponentForm (tail.dropWhile isDigitOrScore)
            | tail =>
              isSexagesimalTail (tail.takeWhile (· != '.'))
                && (match tail.dropWhile (· != '.') with
                  | '.' :: tail => tail.all isDigitOrScore
                  | _ => false))
      | [] => false

/-- The form of a date or a time. -/
def isTimestampForm (cs : List Char) : Bool :=
  match readTimestamp? cs with
  | some written => written.padded || written.time.isSome
  | none => false

/-- The words for truth values. -/
def truthWords : List String :=
  ["yes", "Yes", "YES", "no", "No", "NO", "true", "True", "TRUE", "false", "False", "FALSE", "on",
    "On", "ON", "off", "Off", "OFF"]

/-- The words for null. -/
def nullWords : List String := ["~", "null", "Null", "NULL", ""]

/-- The tag of a plain scalar. -/
def plainTag (text : String) : Tag :=
  let cs := dropLastFeed text.toList
  let word := String.ofList cs
  if text == "\n" then .str
  else if truthWords.contains word then .bool
  else if isFloatForm cs then .float
  else if isIntForm cs then .int
  else if word == "<<" then .merge
  else if nullWords.contains word then .null
  else if isTimestampForm cs then .timestamp
  else if word == "=" then .value
  else .str

end QueryTemplates
