import QueryTemplates.Markup.Token.Name

/-!
# The tokens of a document

`readTokens` reads a document from left to right. It keeps the indentations of the blocks it is in,
the number of open brackets, and the places where a key may have begun that only its colon will
show to be one. Such a key must end in its line and within 1024 characters.

Documents are those of `SPEC_FULL.md` §10.3 (lines 166–167).
-/

namespace QueryTemplates

/-- A place where a key may have begun. -/
structure KeyStart where
  /-- The number of the token that begins there. -/
  token : Nat
  /-- Nothing but a key may stand there. -/
  required : Bool
  index : Nat
  line : Nat
  column : Nat

/-- The state of reading. -/
structure TokenReader where
  cursor : Cursor
  /-- The characters that stand for halves of surrogate pairs. -/
  half : Nat → Char
  tokens : Array Token := #[]
  /-- How many brackets are open. -/
  depth : Int := 0
  indent : Int := -1
  outerIndents : List Int := []
  /-- A key may begin at the cursor. -/
  keyAllowed : Bool := true
  /-- Where keys may have begun, by the number of open brackets. -/
  starts : List (Int × KeyStart) := []

namespace TokenReader

/-- The greatest number of characters of a key found by its colon. -/
def longestKey : Nat := 1024

/-- Reading inside brackets. -/
def inFlow (r : TokenReader) : Bool := r.depth != 0

/-- The reader with a token behind the others. -/
def push (r : TokenReader) (token : Token) : TokenReader :=
  { r with tokens := r.tokens.push token }

/-- The cursor at the next token; a line break outside brackets lets a key begin. -/
def skipToToken (r : TokenReader) : TokenReader :=
  let cursor := r.cursor.skipBlanks.skipComment
  match _found : cursor.lineBreak? with
  | none => { r with cursor }
  | some (_, next) =>
    skipToToken { r with cursor := next, keyAllowed := r.keyAllowed || !r.inFlow }
termination_by r.cursor.rest.length
decreasing_by
  exact Nat.lt_of_lt_of_le (Cursor.length_lineBreak? _found)
    (Nat.le_trans (Cursor.length_skipComment_le _) (Cursor.length_skipBlanks_le _))

/-- A key that began there can no longer end. -/
def isStale (r : TokenReader) (start : KeyStart) : Bool :=
  start.line != r.cursor.line || longestKey < r.cursor.index - start.index

/-- Forgets the keys that can no longer end. -/
def dropStale (r : TokenReader) : Except DocumentError TokenReader :=
  if r.starts.any fun (_, start) => r.isStale start && start.required then
    .error (.markup .keyWithoutValue)
  else .ok { r with starts := r.starts.filter fun (_, start) => !r.isStale start }

/-- Forgets the key that may have begun within the same brackets. -/
def dropStart (r : TokenReader) : Except DocumentError TokenReader :=
  match r.starts.lookup r.depth with
  | some start =>
    if start.required then .error (.markup .keyWithoutValue)
    else .ok { r with starts := r.starts.filter (·.1 != r.depth) }
  | none => .ok r

/-- Keeps the cursor as a place where a key may begin. -/
def saveStart (r : TokenReader) : Except DocumentError TokenReader := do
  if !r.keyAllowed then return r
  let r ← r.dropStart
  let start : KeyStart :=
    { token := r.tokens.size
      required := !r.inFlow && r.indent == r.cursor.column
      index := r.cursor.index
      line := r.cursor.line
      column := r.cursor.column }
  return { r with starts := r.starts ++ [(r.depth, start)] }

/-- Ends the blocks that are indented more than `column`, the indentations of the outer ones being
`outer`. -/
def endBlocks (column : Int) (outer : List Int) (r : TokenReader) : TokenReader :=
  match outer with
  | [] => { r with outerIndents := [] }
  | indent :: rest =>
    if column < r.indent then endBlocks column rest { (r.push .blockEnd) with indent }
    else { r with outerIndents := outer }

/-- Ends the blocks that are indented more than `column`; indentation means nothing inside
brackets. -/
def unwind (r : TokenReader) (column : Int) : TokenReader :=
  if r.inFlow then r else endBlocks column r.outerIndents r

/-- Begins a block at a column if it is indented more than the current one. -/
def indentTo? (r : TokenReader) (column : Nat) : Option TokenReader :=
  if r.indent < column then
    some { r with outerIndents := r.indent :: r.outerIndents, indent := column }
  else none

/-- Begins a block at the cursor if it is indented more than the current one. -/
def beginBlock (r : TokenReader) (token : Token) : TokenReader :=
  match r.indentTo? r.cursor.column with
  | some r => r.push token
  | none => r

/-- The token of `length` characters in front. -/
def take (r : TokenReader) (length : Nat) (token : Token) : TokenReader :=
  { (r.push token) with cursor := r.cursor.advance length }

/-- A line between documents ends all blocks. -/
def endDocument (r : TokenReader) : Except DocumentError TokenReader := do
  let r ← (r.unwind (-1)).dropStart
  return { r with keyAllowed := false }

/-- An opening bracket. -/
def openBracket (r : TokenReader) (token : Token) : Except DocumentError TokenReader := do
  let r ← r.saveStart
  return { (r.take 1 token) with depth := r.depth + 1, keyAllowed := true }

/-- A closing bracket. -/
def closeBracket (r : TokenReader) (token : Token) : Except DocumentError TokenReader := do
  let r ← r.dropStart
  return { (r.take 1 token) with depth := r.depth - 1, keyAllowed := false }

/-- A comma. -/
def flowEntry (r : TokenReader) : Except DocumentError TokenReader := do
  let r ← { r with keyAllowed := true }.dropStart
  return r.take 1 .flowEntry

/-- A dash in front of an entry. -/
def blockEntry (r : TokenReader) : Except DocumentError TokenReader := do
  if !r.inFlow && !r.keyAllowed then throw (.markup .entryNotAllowed)
  let r := if r.inFlow then r else r.beginBlock .blockSequenceStart
  let r ← { r with keyAllowed := true }.dropStart
  return r.take 1 .blockEntry

/-- A question mark in front of a key. -/
def keyMark (r : TokenReader) : Except DocumentError TokenReader := do
  if !r.inFlow && !r.keyAllowed then throw (.markup .keyNotAllowed)
  let r := if r.inFlow then r else r.beginBlock .blockMappingStart
  let r ← { r with keyAllowed := !r.inFlow }.dropStart
  return r.take 1 .key

/-- The reader with a token put in front of the one of a number. -/
def insert (r : TokenReader) (number : Nat) (token : Token) : TokenReader :=
  { r with tokens := r.tokens.insertIdxIfInBounds number token }

/-- A colon: what began at the place kept for the same brackets was a key. -/
def valueMark (r : TokenReader) : Except DocumentError TokenReader := do
  match r.starts.lookup r.depth with
  | some start =>
    let r := { r with starts := r.starts.filter (·.1 != r.depth), keyAllowed := false }
    let r := r.insert start.token .key
    let r := if r.inFlow then r else match r.indentTo? start.column with
      | some r => r.insert start.token .blockMappingStart
      | none => r
    return r.take 1 .value
  | none =>
    if !r.inFlow && !r.keyAllowed then throw (.markup .valueNotAllowed)
    let r := if r.inFlow then r else r.beginBlock .blockMappingStart
    let r ← { r with keyAllowed := !r.inFlow }.dropStart
    return r.take 1 .value

/-- Something that may be a key, or stand in front of one. -/
def inKey (r : TokenReader) (read : Cursor → Except DocumentError (Token × Cursor)) :
    Except DocumentError TokenReader := do
  let r ← r.saveStart
  let (token, cursor) ← read r.cursor
  return { (r.push token) with cursor, keyAllowed := false }

/-- A plain scalar; a line break behind it lets a key begin. -/
def plain (r : TokenReader) : Except DocumentError TokenReader := do
  let r ← r.saveStart
  let scalar := plainScalar r.inFlow (r.indent + 1) r.cursor
  return { (r.push (.scalar (String.ofList scalar.text) true)) with
    cursor := scalar.cursor, keyAllowed := scalar.broken }

/-- A block scalar. -/
def block (r : TokenReader) (folded : Bool) : Except DocumentError TokenReader := do
  let r ← { r with keyAllowed := true }.dropStart
  let (text, cursor) ← blockScalar folded r.indent r.cursor
  return { (r.push (.scalar text false)) with cursor }

/-- A plain scalar may begin in front. -/
def plainBegins (r : TokenReader) (ch : Char) : Bool :=
  let marks : List Char :=
    ['-', '?', ':', ',', '[', ']', '{', '}', '#', '&', '*', '!', '|', '>', '\x27', '\x22', '%', '@',
      '\x60']
  (!endsWord (some ch) && !marks.contains ch)
    || (!endsWord (r.cursor.peekAt 1) && (ch == '-' || (!r.inFlow && (ch == '?' || ch == ':'))))

/-- Reads the token that begins with `ch`, which is in front. -/
def readToken (r : TokenReader) (ch : Char) : Except DocumentError TokenReader :=
  let first := r.cursor.column == 0
  let apart := endsWord (r.cursor.peekAt 1)
  if ch == '%' && first then do
    let r ← r.endDocument
    let (directive, cursor) ← directiveLine r.cursor
    return { (r.push (.directive directive)) with cursor }
  else if first && r.cursor.atMark ['-', '-', '-'] then do
    return (← r.endDocument).take 3 .documentStart
  else if first && r.cursor.atMark ['.', '.', '.'] then do
    return (← r.endDocument).take 3 .documentEnd
  else if ch == '[' then r.openBracket .flowSequenceStart
  else if ch == '{' then r.openBracket .flowMappingStart
  else if ch == ']' then r.closeBracket .flowSequenceEnd
  else if ch == '}' then r.closeBracket .flowMappingEnd
  else if ch == ',' then r.flowEntry
  else if ch == '-' && apart then r.blockEntry
  else if ch == '?' && (r.inFlow || apart) then r.keyMark
  else if ch == ':' && (r.inFlow || apart) then r.valueMark
  else if ch == '*' then r.inKey fun c => do
    let (name, cursor) ← anchorName c
    return (.alias name, cursor)
  else if ch == '&' then r.inKey fun c => do
    let (name, cursor) ← anchorName c
    return (.anchor name, cursor)
  else if ch == '!' then r.inKey fun c => do
    let (written, cursor) ← writtenTag c
    return (.tag written, cursor)
  else if ch == '|' && !r.inFlow then r.block false
  else if ch == '>' && !r.inFlow then r.block true
  else if ch == '\x27' || ch == '\x22' then r.inKey fun c => do
    let (text, cursor) ← quotedScalar r.half (ch == '\x22') c
    return (.scalar text false, cursor)
  else if r.plainBegins ch then r.plain
  else .error (.markup .unexpectedCharacter)

/-- The tokens that were read for certain: none from the first on that may still turn out to be a
key. -/
def certain (r : TokenReader) : List Token :=
  let pending := r.starts.filter fun (_, start) => !r.isStale start
  match (pending.map (·.2.token)).min? with
  | some number => r.tokens.toList.take number
  | none => r.tokens.toList

/-- Reads to the end of the document. When that fails, the tokens in front of the failure come with
it. -/
def readAll (r : TokenReader) : List Token × Option DocumentError :=
  match r.skipToToken.dropStale with
  | .error e => (r.certain, some e)
  | .ok here =>
    let here := here.unwind here.cursor.column
    match here.cursor.peek with
    | none =>
      match here.endDocument with
      | .error e => (r.certain, some e)
      | .ok last => ((last.push .streamEnd).tokens.toList, none)
    | some ch =>
      match here.readToken ch with
      | .error e => (r.certain, some e)
      | .ok next =>
        if _shorter : next.cursor.rest.length < r.cursor.rest.length then readAll next
        else (r.certain, some (.markup .unexpectedCharacter))
termination_by r.cursor.rest.length

end TokenReader

/-- The character may stand in a document. -/
def isMarkupChar (c : Char) : Bool :=
  let n := c.toNat
  n == 0x09 || n == 0x0a || n == 0x0d || (0x20 ≤ n && n ≤ 0x7e) || n == 0x85
    || (0xa0 ≤ n && n ≤ 0xd7ff) || (0xe000 ≤ n && n ≤ 0xfffd) || 0x10000 ≤ n

/-- The tokens of a document. A mark of byte order may stand in front. -/
def readTokens (half : Nat → Char) (text : String) : List Token × Option DocumentError :=
  if text.toList.all isMarkupChar then
    let start : Cursor := { rest := text.toList }
    TokenReader.readAll
      { cursor := if start.peek == some '\uFEFF' then start.next else start, half }
  else ([], some (.markup .unprintable))

end QueryTemplates
