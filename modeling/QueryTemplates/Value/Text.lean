import QueryTemplates.Number.DigitLimit
import QueryTemplates.Text.Quoted
import QueryTemplates.Value.Mapping

/-!
# The text of values

A value has two written forms. Its *literal* is unambiguous: text is quoted, and containers show the
literals of their parts. Its *text* is what it reads as inside other text: a string is itself, a
date is written with dashes, and everything else is its literal. A container that comes up again
within itself is shown as empty but for three points.

Neither form is given of a value that holds an integer with too many digits; `hasLongInteger` tells
which values those are.

Values are shown in the texts of `SPEC_FULL.md` §11 (lines 202–203).
-/

namespace QueryTemplates

/-- The unambiguous written form of a scalar. -/
def Scalar.literal : Scalar → String
  | .null => "None"
  | .bool true => "True"
  | .bool false => "False"
  | .int n => toString n
  | .float x => x.text
  | .str s => quoted s
  | .bytes bs => quotedBytes bs
  | .date d => d.literal
  | .datetime t => t.literal

/-- What a scalar reads as inside other text. -/
def Scalar.text : Scalar → String
  | .str s => s
  | .date d => d.text
  | .datetime t => t.text
  | s => s.literal

/-- The scalar is an integer with too many digits. -/
def Scalar.isLongInteger : Scalar → Bool
  | .int n => QueryTemplates.isLongInteger n
  | _ => false

namespace Value

/-- What stands in braces. -/
def inBraces (parts : List String) : String := "\x7b" ++ ", ".intercalate parts ++ "\x7d"

/-- A container that is shown already. -/
def shownAgain (v : Value) : String :=
  match v.kind with
  | .list => "[...]"
  | .pair => "(...)"
  | _ => inBraces ["..."]

mutual

/-- The unambiguous written form of a value inside containers that have the marks `around`. -/
def literalWithin (around : List LoopMark) : Value → String
  | .scalar s => s.literal
  | .list items => "[" ++ ", ".intercalate (itemLiterals around items) ++ "]"
  | .pair first second =>
    "(" ++ literalWithin around first ++ ", " ++ literalWithin around second ++ ")"
  | .set [] => "set()"
  | .set members => inBraces (members.map Scalar.literal)
  | .map entries => inBraces (entryLiterals around entries)
  | .function => "<function>"
  | .loop mark content =>
    if around.contains mark then shownAgain content else literalWithin (mark :: around) content
  | .endless => "..."

/-- The literals of the items of a list. -/
def itemLiterals (around : List LoopMark) : List Value → List String
  | [] => []
  | v :: rest => literalWithin around v :: itemLiterals around rest

/-- The entries of a mapping, each a key and a value around a colon. -/
def entryLiterals (around : List LoopMark) : List (Scalar × Value) → List String
  | [] => []
  | (k, v) :: rest =>
    (k.literal ++ ": " ++ literalWithin around v) :: entryLiterals around rest

end

/-- The unambiguous written form of a value. -/
def literal (v : Value) : String := literalWithin [] v

/-- What a value reads as inside other text. -/
def text : Value → String
  | .scalar s => s.text
  | v => v.literal

mutual

/-- The literal of a value inside containers that have the marks `around` shows an integer with too
many digits. -/
def hasLongIntegerWithin (around : List LoopMark) : Value → Bool
  | .scalar s => s.isLongInteger
  | .list items => anyLongInteger around items
  | .pair first second => hasLongIntegerWithin around first || hasLongIntegerWithin around second
  | .set members => members.any Scalar.isLongInteger
  | .map entries => anyLongEntry around entries
  | .function => false
  | .loop mark content => !around.contains mark && hasLongIntegerWithin (mark :: around) content
  | .endless => false

/-- One of the items has it. -/
def anyLongInteger (around : List LoopMark) : List Value → Bool
  | [] => false
  | v :: rest => hasLongIntegerWithin around v || anyLongInteger around rest

/-- A key or a value of the entries has it. -/
def anyLongEntry (around : List LoopMark) : List (Scalar × Value) → Bool
  | [] => false
  | (k, v) :: rest =>
    k.isLongInteger || hasLongIntegerWithin around v || anyLongEntry around rest

end

/-- The written form of the value would show an integer with too many digits. -/
def hasLongInteger (v : Value) : Bool := hasLongIntegerWithin [] v

end Value

end QueryTemplates
