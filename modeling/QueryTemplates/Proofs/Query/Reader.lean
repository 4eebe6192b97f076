import QueryTemplates.Proofs.Query.Standing

/-!
# Reading compiled queries

A reader for the texts of queries that stand apart. A closed part tells where it ends, so it is read
from the front of any text; an item is read up to the blank behind it. Parts in a group are items
one after the other, or items with an operator between them: a word with a blank behind it is an
operator, one with a colon the name of a field. The depth to which groups are read is bounded by a
number. Nothing is said here of texts that are not written by a query.

About the texts of `SPEC_FULL.md` §4 (lines 50–101).
-/

namespace QueryTemplates

namespace Query

/-- The characters of a query with its own texts. -/
def chars (q : Query) : List Char := (q.write id).toList

/-! ### The reader -/

/-- The word at the front of a text. -/
def wordAhead (cs : List Char) : String := String.ofList (cs.takeWhile Char.isAlphanum)

/-- What is behind the word at the front of a text. -/
def behindWord (cs : List Char) : List Char := cs.dropWhile Char.isAlphanum

/-- Reads a range with words for bounds. -/
def readWordRange : List Char → Option (Query × List Char)
  | opening :: ' ' :: cs =>
    match behindWord cs with
    | ' ' :: 'T' :: 'O' :: ' ' :: ds =>
      match behindWord ds with
      | ' ' :: closing :: rest =>
        some (.range (wordAhead cs) (wordAhead ds) (opening == '[') (closing == ']'), rest)
      | _ => none
    | _ => none
  | _ => none

section

variable (closed item : List Char → Option (Query × List Char))

/-- Reads a part with delimiters. -/
def readDelimited (cs : List Char) : Option (Query × List Char) :=
  match cs with
  | '[' :: _ => readWordRange cs
  | '\x7b' :: _ => readWordRange cs
  | _ => closed cs

/-- Reads the mark behind a part, if there is one. -/
def readMark (q : Query) : List Char → Query × List Char
  | '^' :: rest =>
    (.boost q (.int (Nat.ofDigitChars 10 (rest.takeWhile Char.isDigit) 0)),
      rest.dropWhile Char.isDigit)
  | '~' :: '0' :: rest => (.fuzzy q (some (.int 0)), rest)
  | '~' :: '1' :: rest => (.fuzzy q (some (.int 1)), rest)
  | '~' :: rest => (.fuzzy q none, rest)
  | rest => (q, rest)

/-- Reads an item. -/
def readItem (cs : List Char) : Option (Query × List Char) :=
  match cs with
  | '+' :: rest => do
    let (body, rest) ← closed rest
    return (.required body, rest)
  | _ => match behindWord cs with
    | ':' :: ' ' :: rest => do
      let (body, rest) ← readDelimited closed rest
      return (.field (wordAhead cs) body, rest)
    | _ => do
      let (q, rest) ← readDelimited closed cs
      return readMark q rest

/-- The operator between a part and the next one. -/
def operatorAhead : List Char → Option Operator
  | ' ' :: cs => match behindWord cs with
    | ' ' :: _ => Operator.ofWord? (wordAhead cs)
    | _ => none
  | _ => none

/-- Reads the other items of a group up to its end, in front of each of which stands a blank and a
mark of some width. -/
def readMore (width : Nat) : Nat → List Char → Option (List Query × List Char)
  | _, ' ' :: ')' :: rest => some ([], rest)
  | n + 1, ' ' :: cs => do
    let (q, cs) ← item (cs.drop width)
    let (others, rest) ← readMore width n cs
    return (q :: others, rest)
  | _, _ => none

end

/-- What stands between the blank in front of an operator and the next part. -/
def operatorMark (op : Operator) : List Char := op.word.toList ++ [' ']

/-- Reads the parts of a group up to its end. -/
def readContents (item : List Char → Option (Query × List Char)) (n : Nat) :
    List Char → Option (List Query × List Char)
  | ' ' :: ')' :: rest => some ([], rest)
  | cs => do
    let (first, cs) ← item cs
    match operatorAhead cs with
    | some op =>
      let (others, rest) ← readMore item (operatorMark op).length n cs
      return ([.boolean op (first :: others)], rest)
    | none =>
      let (others, rest) ← readMore item 0 n cs
      return (first :: others, rest)

/-- Reads a closed part in which groups are nested less than `n` deep. -/
def readClosed : Nat → List Char → Option (Query × List Char)
  | n + 1, '(' :: ' ' :: cs => do
    let (children, rest) ← readContents (readItem (readClosed n)) n cs
    return (.group children, rest)
  | _, cs => do
    let (inside, rest) ← readPhrase cs
    return (.term (String.ofList (unescapeChars inside)), rest)

/-! ### Written queries as characters -/

section

variable (body : Query)

theorem chars_term (text : String) :
    (term text).chars = '\x22' :: (escapeChars text.toList ++ ['\x22']) := toList_term text

/-- A field has its name in front, with a colon. -/
theorem chars_field (name : String) :
    (field name body).chars = name.toList ++ ':' :: ' ' :: body.chars := by
  simp [chars, write, Fragment.field]

/-- A range stands between its brackets, with its word in the middle. -/
theorem chars_range (start stop : String) (includeStart includeStop : Bool) :
    (range start stop includeStart includeStop).chars
      = (if includeStart then '[' else '\x7b') :: ' ' :: (start.toList ++
          ' ' :: 'T' :: 'O' :: ' ' :: (stop.toList ++
            [' ', if includeStop then ']' else '\x7d'])) := by
  cases includeStart <;> cases includeStop <;>
    simp [chars, write, Fragment.range, Fragment.rangeEnclosure, Enclosure.write]

/-- A similarity stands behind its query. -/
theorem chars_fuzzy (similarity : Option Number) :
    (fuzzy body similarity).chars = body.chars ++ (Fragment.fuzzy "" similarity).toList := by
  cases similarity <;> simp [chars, write, Fragment.fuzzy]

/-- A factor stands behind its query and the mark. -/
theorem chars_boost (factor : Number) :
    (boost body factor).chars = body.chars ++ '^' :: factor.suffix.toList := by
  simp [chars, write, Fragment.boost]

/-- A required query has its mark in front. -/
theorem chars_required : (required body).chars = '+' :: body.chars := by
  simp [chars, write, Fragment.required]

end

/-- The other items of a group, a blank and a mark in front of each. -/
def moreChars (mark : List Char) (children : List Query) : List Char :=
  children.flatMap fun q => ' ' :: (mark ++ q.chars)

theorem toList_intercalate_writeAll {separator : String} {mark : List Char}
    (h : separator.toList = ' ' :: mark) (first : Query) (others : List Query) :
    (separator.intercalate (writeAll id (first :: others))).toList
      = first.chars ++ moreChars mark others := by
  rw [writeAll, intercalate_cons, writeAll_eq_map, String.toList_append, String.toList_join,
    List.map_map, List.flatMap_map, moreChars]
  simp [chars, h]

/-- The items of a group with blanks between them. -/
def itemsChars : List Query → List Char
  | [] => []
  | first :: others => first.chars ++ moreChars [] others

/-- A group stands between parentheses and blanks. -/
theorem chars_group (children : List Query) :
    (group children).chars = '(' :: ' ' :: (itemsChars children ++ [' ', ')']) := by
  cases children with
  | nil => rfl
  | cons first others =>
    have hjoined : (" ".intercalate (writeAll id (first :: others))).toList = _ :=
      toList_intercalate_writeAll rfl first others
    simp [chars, write, Enclosure.write, Fragment.group, itemsChars, hjoined]

/-- Queries with an operator are the first one and more behind the operator. -/
theorem chars_boolean_cons (op : Operator) (first : Query) (others : List Query) :
    (boolean op (first :: others)).chars
      = first.chars ++ moreChars (operatorMark op) others :=
  toList_intercalate_writeAll (by simp [operatorMark, Operator.joiner]) first others

/-! ### Words -/

section

variable {c : Char} {text : String}

/-- A word is read up to the first other character. -/
theorem wordAhead_append (h : IsWord text) (hc : c.isAlphanum = false) (rest : List Char) :
    wordAhead (text.toList ++ c :: rest) = text := by
  rw [wordAhead, List.takeWhile_append_of_pos h.alphanum]
  simp [hc]

/-- What stands behind a word begins with that character. -/
theorem behindWord_append (h : IsWord text) (hc : c.isAlphanum = false) (rest : List Char) :
    behindWord (text.toList ++ c :: rest) = c :: rest := by
  rw [behindWord, List.dropWhile_append_of_pos h.alphanum]
  simp [hc]

theorem behindWord_cons (hc : c.isAlphanum = false) (rest : List Char) :
    behindWord (c :: rest) = c :: rest := by
  simp [behindWord, hc]

end

/-- Operators are words themselves. -/
theorem isWord_operator (op : Operator) : IsWord op.word := by
  cases op <;> decide

/-- A range is read back. -/
theorem readWordRange_chars {start stop : String} (hstart : IsWord start) (hstop : IsWord stop)
    (includeStart includeStop : Bool) (rest : List Char) :
    readWordRange ((range start stop includeStart includeStop).chars ++ rest)
      = some (range start stop includeStart includeStop, rest) := by
  have hblank : ' '.isAlphanum = false := by decide
  rw [chars_range]
  simp only [List.cons_append, List.append_assoc, List.nil_append, readWordRange,
    wordAhead_append hstart hblank, behindWord_append hstart hblank,
    wordAhead_append hstop hblank, behindWord_append hstop hblank]
  cases includeStart <;> cases includeStop <;> rfl

/-! ### Marks behind a part -/

/-- A similarity is read off its mark. -/
theorem readMark_fuzzy (q : Query) {similarity : Option Number}
    (h : similarity ∈ [none, some (.int 0), some (.int 1)]) (rest : List Char) :
    readMark q ((Fragment.fuzzy "" similarity).toList ++ ' ' :: rest)
      = (fuzzy q similarity, ' ' :: rest) := by
  have hcases : similarity = none ∨ similarity = some (.int 0) ∨ similarity = some (.int 1) := by
    simpa using h
  rcases hcases with rfl | rfl | rfl <;> rfl

theorem readMark_boost (q : Query) {factor : Int} (h : 1 ≤ factor) (rest : List Char) :
    readMark q ('^' :: ((Number.int factor).suffix.toList ++ ' ' :: rest))
      = (boost q (.int factor), ' ' :: rest) := by
  obtain ⟨n, rfl⟩ := Int.eq_ofNat_of_zero_le (by omega : 0 ≤ factor)
  have hdigits : ∀ c ∈ (Nat.toDigits 10 n), c.isDigit = true := fun c hc =>
    Nat.isDigit_of_mem_toDigits (by decide) (by decide) hc
  have hsuffix : (Number.int n).suffix.toList = Nat.toDigits 10 n := Nat.toList_repr
  rw [hsuffix, readMark, List.takeWhile_append_of_pos hdigits,
    List.dropWhile_append_of_pos hdigits]
  simp [Nat.ofDigitChars_ten_toDigits]

end Query

end QueryTemplates
