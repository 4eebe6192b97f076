/-!
# Places in a document

A cursor stands before the rest of a document and knows its index, line and column. Five line
breaks end a line; a carriage return before a line feed is one with it. A mark of byte order takes
no column.
-/

namespace QueryTemplates

/-- A place in a document and what follows. -/
structure Cursor where
  rest : List Char
  index : Nat := 0
  line : Nat := 0
  column : Nat := 0

/-- The character breaks a line. -/
def isBreak (c : Char) : Bool :=
  c == '\n' || c == '\r' || c == '\u0085' || c == '\u2028' || c == '\u2029'

/-- The character that may take part in names of anchors, directives and handles. -/
def isNameChar (c : Char) : Bool := c.isAlphanum || c == '-' || c == '_'

namespace Cursor

/-- The next character. -/
def peek (c : Cursor) : Option Char := c.rest.head?

/-- The character `n` places further. -/
def peekAt (c : Cursor) (n : Nat) : Option Char := c.rest[n]?

/-- The place behind the next character. -/
def next (c : Cursor) : Cursor :=
  match c.rest with
  | [] => c
  | ch :: rest =>
    if isBreak ch && !(ch == '\r' && rest.head? == some '\n') then
      { rest, index := c.index + 1, line := c.line + 1, column := 0 }
    else
      { rest, index := c.index + 1, line := c.line
        column := if ch == '\uFEFF' then c.column else c.column + 1 }

/-- The place `n` characters further. -/
def advance : Nat → Cursor → Cursor
  | 0, c => c
  | n + 1, c => advance n c.next

/-- The characters in front that satisfy `p`, and the place behind them. -/
def span (p : Char → Bool) (c : Cursor) : List Char × Cursor :=
  let taken := c.rest.takeWhile p
  (taken, c.advance taken.length)

/-- The place behind the characters in front that satisfy `p`. -/
def skip (p : Char → Bool) (c : Cursor) : Cursor := (c.span p).2

/-- The place behind the blanks in front. -/
def skipBlanks (c : Cursor) : Cursor := c.skip (· == ' ')

/-- The place at the end of the line if a comment is in front. -/
def skipComment (c : Cursor) : Cursor :=
  if c.peek == some '#' then c.skip (!isBreak ·) else c

/-- A line break in front as it counts in text, and the place behind it. -/
def lineBreak? (c : Cursor) : Option (Char × Cursor) :=
  match c.rest with
  | '\r' :: '\n' :: _ => some ('\n', c.advance 2)
  | ch :: _ =>
    if ch == '\u2028' || ch == '\u2029' then some (ch, c.next)
    else if isBreak ch then some ('\n', c.next)
    else none
  | [] => none

/-- A cursor never moves back. -/
theorem length_next_le (c : Cursor) : c.next.rest.length ≤ c.rest.length := by
  unfold next
  split
  · exact Nat.le_refl _
  · next ch rest h => split <;> simp [h]

/-- As long as characters are left, the next step takes one. -/
theorem length_next_lt {c : Cursor} (h : c.rest ≠ []) : c.next.rest.length < c.rest.length := by
  unfold next
  split
  · contradiction
  · next ch rest h => split <;> simp [h]

/-- Some steps ahead no characters are added. -/
theorem length_advance_le (n : Nat) (c : Cursor) :
    (c.advance n).rest.length ≤ c.rest.length := by
  induction n generalizing c with
  | zero => exact Nat.le_refl _
  | succ n ih => exact Nat.le_trans (ih c.next) (length_next_le c)

theorem length_skip_le (p : Char → Bool) (c : Cursor) :
    (c.skip p).rest.length ≤ c.rest.length := length_advance_le _ c

theorem length_skipBlanks_le (c : Cursor) : c.skipBlanks.rest.length ≤ c.rest.length :=
  length_skip_le _ c

theorem length_skipComment_le (c : Cursor) : c.skipComment.rest.length ≤ c.rest.length := by
  unfold skipComment
  split
  · exact length_skip_le _ c
  · exact Nat.le_refl _

/-- A line break that is found is also passed. -/
theorem length_lineBreak? {c c' : Cursor} {b : Char} (h : c.lineBreak? = some (b, c')) :
    c'.rest.length < c.rest.length := by
  unfold lineBreak? at h
  split at h
  · next rest hrest =>
    simp only [Option.some.injEq, Prod.mk.injEq] at h
    rw [← h.2]
    exact Nat.lt_of_le_of_lt (length_advance_le 1 c.next) (length_next_lt (by simp [hrest]))
  · next ch rest _ hrest =>
    have hne : c.rest ≠ [] := by simp [hrest]
    split at h
    · cases h; exact length_next_lt hne
    · split at h
      · cases h; exact length_next_lt hne
      · cases h
  · cases h

/-- The characters in front are `mark` and end there. -/
def atMark (mark : List Char) (c : Cursor) : Bool :=
  mark.isPrefixOf c.rest &&
    (match c.peekAt mark.length with
      | none => true
      | some ch => ch == ' ' || ch == '\t' || isBreak ch)

/-- A mark between documents is in front, whatever the column. -/
def atDocumentMark (c : Cursor) : Bool := c.atMark ['-', '-', '-'] || c.atMark ['.', '.', '.']

end Cursor

/-- The end of the document, or a line break. -/
def endsLine : Option Char → Bool
  | none => true
  | some c => isBreak c

/-- The end of the document, a blank, or a line break. -/
def endsField : Option Char → Bool
  | none => true
  | some c => c == ' ' || isBreak c

/-- The end of the document, a blank, a tab, or a line break. -/
def endsWord : Option Char → Bool
  | none => true
  | some c => c == ' ' || c == '\t' || isBreak c

end QueryTemplates
