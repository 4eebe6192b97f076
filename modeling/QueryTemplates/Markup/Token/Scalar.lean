import QueryTemplates.Markup.Cursor
import QueryTemplates.Markup.Error

/-!
# Scalars of documents

The four written forms of scalars: quoted, plain, and blocks that keep or fold their lines. Each
reader takes a cursor at the beginning of the form and gives the text with the cursor behind it.
-/

namespace QueryTemplates

/-- The character of a number that an escape gives. Each half of a surrogate pair comes from an
escape of its own and stays apart from the other; `half` gives characters that stand for them. -/
def charOfCode (half : Nat → Char) (code : Nat) : Char :=
  if 0xd800 ≤ code ∧ code < 0xe000 then half code else Char.ofNat code

/-- The value of hexadecimal digits. -/
def hexValue (cs : List Char) : Nat :=
  cs.foldl (fun n c => n * 16 + (if c.isDigit then c.toNat - '0'.toNat
    else c.toLower.toNat - 'a'.toNat + 10)) 0

/-- The character is a hexadecimal digit. -/
def isHexDigit (c : Char) : Bool :=
  c.isDigit || ('a' ≤ c && c ≤ 'f') || ('A' ≤ c && c ≤ 'F')

/-- What a letter behind a backslash stands for. -/
def escapeLetter? : Char → Option Char
  | '0' => some '\x00'
  | 'a' => some '\x07'
  | 'b' => some '\x08'
  | 't' => some '\t'
  | '\t' => some '\t'
  | 'n' => some '\n'
  | 'v' => some '\x0b'
  | 'f' => some '\x0c'
  | 'r' => some '\r'
  | 'e' => some '\x1b'
  | ' ' => some ' '
  | '\x22' => some '\x22'
  | '\\' => some '\\'
  | '/' => some '/'
  | 'N' => some '\u0085'
  | '_' => some '\u00a0'
  | 'L' => some '\u2028'
  | 'P' => some '\u2029'
  | _ => none

/-- How many hexadecimal digits follow a letter behind a backslash. -/
def escapeWidth? : Char → Option Nat
  | 'x' => some 2
  | 'u' => some 4
  | 'U' => some 8
  | _ => none

/-- A number that an escape gives is one of a character. -/
def checkCode (code : Nat) : Except DocumentError Nat :=
  if 0x7fffffff < code then .error .characterRange
  else if 0x10ffff < code then .error .character
  else .ok code

/-- The line breaks in front, with blanks before each of them; quotes may not span documents. -/
def quotedBreaks (c : Cursor) : Except DocumentError (List Char × Cursor) :=
  if c.atDocumentMark then .error (.markup .documentMarkInQuotes)
  else
    match _found : (c.skip fun ch => ch == ' ' || ch == '\t').lineBreak? with
    | none => .ok ([], c.skip fun ch => ch == ' ' || ch == '\t')
    | some (b, next) => do
      let (breaks, last) ← quotedBreaks next
      return (b :: breaks, last)
termination_by c.rest.length
decreasing_by
  exact Nat.lt_of_lt_of_le (Cursor.length_lineBreak? _found) (Cursor.length_skip_le _ c)

/-- The line break `first` and those after it, folded: a single line feed is a blank. -/
def foldBreaks (first : Char) (breaks : List Char) : List Char :=
  if first != '\n' then first :: breaks
  else if breaks.isEmpty then [' ']
  else breaks

/-- The codes of an escape, the cursor being behind the backslash. -/
def quotedEscape (c : Cursor) : Except DocumentError (List Nat × Cursor) :=
  match c.peek with
  | none => .error (.markup .badEscape)
  | some letter =>
    match escapeLetter? letter, escapeWidth? letter, c.lineBreak? with
    | some ch, _, _ => .ok ([ch.toNat], c.next)
    | none, some width, _ =>
      let digits := c.next.rest.take width
      if digits.length = width && digits.all isHexDigit then do
        let code ← checkCode (hexValue digits)
        return ([code], c.advance (width + 1))
      else .error (.markup .badEscape)
    | none, none, some (_, next) => do
      let (breaks, last) ← quotedBreaks next
      return (breaks.map Char.toNat, last)
    | none, none, none => .error (.markup .badEscape)

/-- The next part of a quoted scalar; `none` at the closing quote. -/
def quotedPart (double : Bool) (c : Cursor) :
    Except DocumentError (Option (List Nat × Cursor)) :=
  let isSpace (ch : Char) : Bool := ch == ' ' || ch == '\t'
  match c.rest with
  | [] => .error (.markup .unclosedQuote)
  | ch :: rest =>
    if !double && ch == '\x27' && rest.head? == some '\x27' then
      .ok (some (['\x27'.toNat], c.advance 2))
    else if ch == (if double then '\x22' else '\x27') then .ok none
    else if double && ch == '\\' then some <$> quotedEscape c.next
    else if isSpace ch || isBreak ch then
      let (blanks, behind) := c.span isSpace
      match behind.peek, behind.lineBreak? with
      | none, _ => .error (.markup .unclosedQuote)
      | some _, none => .ok (some (blanks.map Char.toNat, behind))
      | some _, some (first, next) => do
        let (breaks, last) ← quotedBreaks next
        return some ((foldBreaks first breaks).map Char.toNat, last)
    else .ok (some ([ch.toNat], c.next))

/-- The rest of a quoted scalar behind the codes read so far. -/
def quotedRest (half : Nat → Char) (double : Bool) (codes : List Nat) (c : Cursor) :
    Except DocumentError (String × Cursor) := do
  match ← quotedPart double c with
  | none => return (String.ofList (codes.reverse.map (charOfCode half)), c.next)
  | some (part, next) =>
    if _shorter : next.rest.length < c.rest.length then
      quotedRest half double (part.reverse ++ codes) next
    else throw (.markup .unclosedQuote)
termination_by c.rest.length

/-- A quoted scalar. -/
def quotedScalar (half : Nat → Char) (double : Bool) (c : Cursor) :
    Except DocumentError (String × Cursor) :=
  quotedRest half double [] c.next

/-- How many characters in front belong to a plain scalar. A colon ends it before a blank, and
inside brackets so do the marks used there. -/
def plainLength (inFlow : Bool) : List Char → Nat
  | [] => 0
  | ch :: rest =>
    let afterColon := endsWord rest.head? ||
      (inFlow && (rest.head?.map fun d => [',', '[', ']', '{', '}'].contains d).getD false)
    if endsWord (some ch) || (ch == ':' && afterColon)
        || (inFlow && [',', '?', '[', ']', '{', '}'].contains ch) then 0
    else plainLength inFlow rest + 1

/-- The line breaks in front, with blanks before each of them, and whether a mark between documents
follows one. -/
def plainBreaks (c : Cursor) : List Char × Bool × Cursor :=
  match _found : c.skipBlanks.lineBreak? with
  | none => ([], false, c.skipBlanks)
  | some (b, next) =>
    if next.atDocumentMark then ([], true, next)
    else
      let (breaks, marked, last) := plainBreaks next
      (b :: breaks, marked, last)
termination_by c.rest.length
decreasing_by
  exact Nat.lt_of_lt_of_le (Cursor.length_lineBreak? _found) (Cursor.length_skip_le _ c)

/-- What stands between two parts of a plain scalar. -/
structure PlainGap where
  /-- The gap as text; `none` when nothing may follow. -/
  text : Option (List Char)
  /-- The gap holds a line break. -/
  broken : Bool
  cursor : Cursor

/-- The gap in front. -/
def plainGap (c : Cursor) : PlainGap :=
  let (blanks, behind) := c.span (· == ' ')
  match behind.lineBreak? with
  | none => ⟨if blanks.isEmpty then none else some blanks, false, behind⟩
  | some (first, next) =>
    if next.atDocumentMark then ⟨none, true, next⟩
    else
      let (breaks, marked, last) := plainBreaks next
      ⟨if marked then none else some (foldBreaks first breaks), true, last⟩

/-- A plain scalar as it is read: its text, whether a line break follows it, and the cursor. -/
structure PlainScalar where
  text : List Char
  broken : Bool
  cursor : Cursor

/-- The rest of a plain scalar behind `text` and a gap. -/
def plainRest (inFlow : Bool) (indent : Int) (text gap : List Char) (broken : Bool) (c : Cursor) :
    PlainScalar :=
  let length := if c.peek == some '#' then 0 else plainLength inFlow c.rest
  if length = 0 then ⟨text, broken, c⟩
  else
    let text := text ++ gap ++ c.rest.take length
    let next := plainGap (c.advance length)
    match next.text with
    | none => ⟨text, next.broken, next.cursor⟩
    | some gap =>
      if next.cursor.peek == some '#' || (!inFlow && next.cursor.column < indent) then
        ⟨text, next.broken, next.cursor⟩
      else if _shorter : next.cursor.rest.length < c.rest.length then
        plainRest inFlow indent text gap next.broken next.cursor
      else ⟨text, next.broken, next.cursor⟩
termination_by c.rest.length
decreasing_by exact _shorter

/-- A plain scalar in a block of the given indentation. -/
def plainScalar (inFlow : Bool) (indent : Int) (c : Cursor) : PlainScalar :=
  plainRest inFlow indent [] [] false c

/-- What becomes of the line breaks at the end of a block scalar. -/
inductive Chomping where
  | strip
  | clip
  | keep
deriving DecidableEq

/-- The mark of chomping. -/
def chompingOf? : Option Char → Option Chomping
  | some '+' => some .keep
  | some '-' => some .strip
  | _ => none

/-- The digit that gives an indentation. -/
def incrementOf? : Option Char → Option Nat
  | some c => if c.isDigit then some (c.toNat - '0'.toNat) else none
  | none => none

/-- The marks behind the first one of a block scalar, in either order. -/
def blockMarks (c : Cursor) : Chomping × Option Nat × Cursor :=
  match chompingOf? c.peek with
  | some chomping =>
    match incrementOf? c.next.peek with
    | some increment => (chomping, some increment, c.next.next)
    | none => (chomping, none, c.next)
  | none =>
    match incrementOf? c.peek with
    | some increment =>
      match chompingOf? c.next.peek with
      | some chomping => (chomping, some increment, c.next.next)
      | none => (.clip, some increment, c.next)
    | none => (.clip, none, c)

/-- The cursor behind the first line of a block scalar. -/
def blockHeaderEnd (c : Cursor) : Except DocumentError Cursor :=
  if !endsField c.peek then .error (.markup .badBlockHeader)
  else
    let behind := c.skipBlanks.skipComment
    if !endsLine behind.peek then .error (.markup .badBlockHeader)
    else .ok ((behind.lineBreak?.map (·.2)).getD behind)

/-- The cursor behind the blanks in front up to a column. -/
def skipTo (indent : Nat) (c : Cursor) : Cursor :=
  c.advance (min (c.rest.takeWhile (· == ' ')).length (indent - c.column))

/-- The line breaks in front, with blanks up to the indentation around them. -/
def blockBreaks (indent : Nat) (c : Cursor) : List Char × Cursor :=
  match _found : (skipTo indent c).lineBreak? with
  | none => ([], skipTo indent c)
  | some (b, next) =>
    let (breaks, last) := blockBreaks indent next
    (b :: breaks, last)
termination_by c.rest.length
decreasing_by
  exact Nat.lt_of_lt_of_le (Cursor.length_lineBreak? _found) (Cursor.length_advance_le _ c)

/-- The line breaks in front, with blanks around them, and the greatest column that blanks
reach. -/
def blockIndentation (greatest : Nat) (c : Cursor) : List Char × Nat × Cursor :=
  let reached := if c.peek == some ' ' then max greatest c.skipBlanks.column else greatest
  match _found : c.skipBlanks.lineBreak? with
  | none => ([], reached, c.skipBlanks)
  | some (b, next) =>
    let (breaks, greatest, last) := blockIndentation reached next
    (b :: breaks, greatest, last)
termination_by c.rest.length
decreasing_by
  exact Nat.lt_of_lt_of_le (Cursor.length_lineBreak? _found) (Cursor.length_skip_le _ c)

/-- The lines of a block scalar: their text, the break behind the last one, and further breaks. -/
structure BlockLines where
  text : List Char
  last : List Char
  breaks : List Char
  cursor : Cursor

/-- The rest of the lines behind `text`, a break and further breaks. A line break between two lines
that begin with no blank is folded when `folded`. -/
def blockLines (folded : Bool) (indent : Nat) (text breaks : List Char) (c : Cursor) :
    BlockLines :=
  let isSpace : Option Char → Bool := fun ch => ch == some ' ' || ch == some '\t'
  let (line, behind) := c.span (!isBreak ·)
  let text := text ++ breaks ++ line
  let (last, next) := match behind.lineBreak? with
    | some (b, next) => ([b], next)
    | none => ([], behind)
  let (breaks, start) := blockBreaks indent next
  if start.column = indent && start.peek.isSome then
    let glue := if folded && last == ['\n'] && !isSpace c.peek && !isSpace start.peek then
        (if breaks.isEmpty then [' '] else [])
      else last
    if _shorter : start.rest.length < c.rest.length then
      blockLines folded indent (text ++ glue) breaks start
    else ⟨text, last, breaks, start⟩
  else ⟨text, last, breaks, start⟩
termination_by c.rest.length

/-- A block scalar inside a block of the given indentation. -/
def blockScalar (folded : Bool) (outer : Int) (c : Cursor) :
    Except DocumentError (String × Cursor) := do
  let (chomping, increment, marked) := blockMarks c.next
  if increment == some 0 then throw (.markup .badBlockHeader)
  let start ← blockHeaderEnd marked
  let least := max 1 (outer + 1).toNat
  let (indent, breaks, first) := match increment with
    | some n =>
      let indent := least + n - 1
      let (breaks, first) := blockBreaks indent start
      (indent, breaks, first)
    | none =>
      let (breaks, greatest, first) := blockIndentation 0 start
      (max least greatest, breaks, first)
  let lines : BlockLines :=
    if first.column = indent && first.peek.isSome then blockLines folded indent [] breaks first
    else ⟨[], [], breaks, first⟩
  let tail := match chomping with
    | .strip => []
    | .clip => lines.last
    | .keep => lines.last ++ lines.breaks
  return (String.ofList (lines.text ++ tail), lines.cursor)

end QueryTemplates
