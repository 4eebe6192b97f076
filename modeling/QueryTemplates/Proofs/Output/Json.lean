import Mathlib.Data.List.Forall2
import QueryTemplates.Markup.Token.Scalar
import QueryTemplates.Output.Json

/-!
# JSON, read as its grammar says

A JSON document is one value with blanks around it. The reader takes exactly what the grammar of
JSON allows: a text ends at the first quote that is not escaped, control characters stand in it only
escaped, the second half of a surrogate pair follows its first half, and nothing stands behind the
value. The members of an object are kept in their order, and a name that comes twice is kept twice,
so nothing that a document says is lost when it is read.

About the JSON of `SPEC_FULL.md` §13 (lines 213–215).
-/

namespace QueryTemplates

/-- A value of JSON. A number is its numeral. -/
inductive Json where
  | null
  | bool (b : Bool)
  | number (numeral : String)
  | text (s : String)
  | list (items : List Json)
  | object (members : List (String × Json))

namespace Json

/-! ### Texts -/

/-- The code unit that four hexadecimal digits name. -/
def codeUnit? (digits : List Char) : Option Nat :=
  if digits.all isHexDigit then some (hexValue digits) else none

/-- The code unit is the first half of a surrogate pair. -/
def isFirstHalf (unit : Nat) : Bool := 0xd800 ≤ unit && unit < 0xdc00

/-- The code unit is the second half of a surrogate pair. -/
def isSecondHalf (unit : Nat) : Bool := 0xdc00 ≤ unit && unit < 0xe000

/-- What a backslash in front of a character stands for. -/
def unescaped? : Char → Option Char
  | '\x22' => some '\x22'
  | '\\' => some '\\'
  | '/' => some '/'
  | 'b' => some '\x08'
  | 'f' => some '\x0c'
  | 'n' => some '\n'
  | 'r' => some '\r'
  | 't' => some '\t'
  | _ => none

/-- A character in front of the characters found behind it. -/
def prepend (c : Char) (found : Option (List Char × List Char)) : Option (List Char × List Char) :=
  found.map fun (cs, rest) => (c :: cs, rest)

/-- Reads a text up to the quote that ends it, and gives its characters and what stands behind the
quote. The first half of a surrogate pair waits for the second one, which must follow at once. -/
def readText (firstHalf : Option Nat) : List Char → Option (List Char × List Char)
  | [] => none
  | c :: rest =>
    if c = '\\' then
      match rest with
      | 'u' :: a :: b :: c :: d :: rest =>
        match codeUnit? [a, b, c, d], firstHalf with
        | none, _ => none
        | some unit, none =>
          if isFirstHalf unit then readText (some unit) rest
          else if isSecondHalf unit then none
          else prepend (Char.ofNat unit) (readText none rest)
        | some unit, some first =>
          if isSecondHalf unit then
            prepend (Char.ofNat (0x10000 + (first - 0xd800) * 0x400 + (unit - 0xdc00)))
              (readText none rest)
          else none
      | mark :: rest =>
        if firstHalf.isSome then none
        else (unescaped? mark).bind fun c => prepend c (readText none rest)
      | [] => none
    else if firstHalf.isSome then none
    else if c = '\x22' then some ([], rest)
    else if c.toNat < 0x20 then none
    else prepend c (readText none rest)

/-! ### Numbers -/

/-- What stands behind one digit or more. -/
def dropDigits : List Char → Option (List Char)
  | [] => none
  | c :: rest => if c.isDigit then some (rest.dropWhile Char.isDigit) else none

/-- What stands behind the digits of a whole number; a zero is not followed by other digits. -/
def dropWhole : List Char → Option (List Char)
  | '0' :: rest => some rest
  | cs => dropDigits cs

/-- What stands behind the digits after a point, if there is one. -/
def dropFraction : List Char → Option (List Char)
  | '.' :: rest => dropDigits rest
  | cs => some cs

/-- What stands behind a power of ten, if there is one. -/
def dropPower : List Char → Option (List Char)
  | [] => some []
  | c :: rest =>
    if c = 'e' ∨ c = 'E' then
      dropDigits (match rest with
        | '+' :: rest | '-' :: rest => rest
        | rest => rest)
    else some (c :: rest)

/-- Reads a number. -/
def readNumber (cs : List Char) : Option (Json × List Char) := do
  let rest ← dropWhole (match cs with
    | '-' :: rest => rest
    | cs => cs)
  let rest ← dropFraction rest
  let rest ← dropPower rest
  return (.number (String.ofList (cs.take (cs.length - rest.length))), rest)

/-! ### Values -/

/-- The blanks that may stand around values, names and marks. -/
def spaces : List Char := [' ', '\t', '\n', '\r']

/-- The characters from the first one on that is no blank. -/
def skipSpace (cs : List Char) : List Char := cs.dropWhile spaces.contains

/-- Reads the name of a member and the colon behind it. -/
def readName (cs : List Char) : Option (String × List Char) :=
  match skipSpace cs with
  | '\x22' :: rest => do
    let (name, rest) ← readText none rest
    match skipSpace rest with
    | ':' :: rest => return (String.ofList name, rest)
    | _ => none
  | _ => none

mutual

/-- Reads a value and gives what stands behind it. `calls` bounds how many readers may be at work
within each other; there are never more than characters, since each one has a character of its
own. -/
def readValue : Nat → List Char → Option (Json × List Char)
  | 0, _ => none
  | calls + 1, cs =>
    match skipSpace cs with
    | 'n' :: 'u' :: 'l' :: 'l' :: rest => some (.null, rest)
    | 't' :: 'r' :: 'u' :: 'e' :: rest => some (.bool true, rest)
    | 'f' :: 'a' :: 'l' :: 's' :: 'e' :: rest => some (.bool false, rest)
    | '\x22' :: rest => do
      let (s, rest) ← readText none rest
      return (.text (String.ofList s), rest)
    | '[' :: rest =>
      match skipSpace rest with
      | ']' :: rest => some (.list [], rest)
      | _ => do
        let (items, rest) ← readItems calls rest
        return (.list items, rest)
    | '\x7b' :: rest =>
      match skipSpace rest with
      | '\x7d' :: rest => some (.object [], rest)
      | _ => do
        let (members, rest) ← readMembers calls rest
        return (.object members, rest)
    | cs => readNumber cs

/-- Reads the items of a list up to its closing bracket. -/
def readItems : Nat → List Char → Option (List Json × List Char)
  | 0, _ => none
  | calls + 1, cs => do
    let (item, rest) ← readValue calls cs
    match skipSpace rest with
    | ',' :: rest =>
      let (items, rest) ← readItems calls rest
      return (item :: items, rest)
    | ']' :: rest => return ([item], rest)
    | _ => none

/-- Reads the members of an object up to its closing brace. -/
def readMembers : Nat → List Char → Option (List (String × Json) × List Char)
  | 0, _ => none
  | calls + 1, cs => do
    let (name, rest) ← readName cs
    let (value, rest) ← readValue calls rest
    match skipSpace rest with
    | ',' :: rest =>
      let (members, rest) ← readMembers calls rest
      return ((name, value) :: members, rest)
    | '\x7d' :: rest => return ([(name, value)], rest)
    | _ => none

end

/-- The value that a document says, if the text is a document. -/
def decode? (document : String) : Option Json := do
  let (value, rest) ← readValue document.toList.length document.toList
  if skipSpace rest = [] then return value else none

/-! ### Texts are read back -/

/-- An escape that is no half of a pair gives its character. -/
theorem readText_unit {a b c d : Char} {unit : Nat} (h : codeUnit? [a, b, c, d] = some unit)
    (hfirst : isFirstHalf unit = false) (hsecond : isSecondHalf unit = false) (rest : List Char) :
    readText none ('\\' :: 'u' :: a :: b :: c :: d :: rest)
      = prepend (Char.ofNat unit) (readText none rest) := by
  rw [readText.eq_def]
  simp only [h, hfirst, hsecond, Bool.false_eq_true, if_false, if_true]

/-- A character that is no backslash ends the text, is refused, or stands for itself. -/
theorem readText_of_ne {c : Char} (hbackslash : c ≠ '\\') (rest : List Char) :
    readText none (c :: rest) =
      if c = '\x22' then some ([], rest)
      else if c.toNat < 0x20 then none
      else prepend c (readText none rest) := by
  rw [readText.eq_def]
  simp only [if_neg hbackslash, Option.isSome_none, Bool.false_eq_true, if_false]

/-- Whatever stands for a character is read as that character, and nothing behind it is touched. -/
theorem readText_jsonChar (c : Char) (rest : List Char) :
    readText none (jsonChar c ++ rest) = prepend c (readText none rest) := by
  unfold jsonChar
  split
  · next h => subst h; rfl
  split
  · next h => subst h; rfl
  split
  · next h => subst h; rfl
  split
  · next h => subst h; rfl
  split
  · next h => subst h; rfl
  split
  · next h => subst h; rfl
  split
  · next h => subst h; rfl
  split
  · next hcontrol =>
    have hunit : ∀ n < 0x20,
        codeUnit? ['0', '0', Nat.digitChar (n / 16 % 16), Nat.digitChar (n % 16)] = some n ∧
          isFirstHalf n = false ∧ isSecondHalf n = false := by decide
    obtain ⟨hread, hfirst, hsecond⟩ := hunit c.toNat hcontrol
    exact (readText_unit hread hfirst hsecond rest).trans (by rw [Char.ofNat_toNat])
  · next hquote hbackslash _ _ _ _ _ hcontrol =>
    show readText none (c :: rest) = _
    rw [readText_of_ne hbackslash, if_neg hquote, if_neg hcontrol]

/-- The quote behind a text is the first one that is read as the end of it. -/
theorem readText_flatMap (cs rest : List Char) :
    readText none (cs.flatMap jsonChar ++ '\x22' :: rest) = some (cs, rest) := by
  induction cs with
  | nil => exact (readText_of_ne (by decide) rest).trans (if_pos rfl)
  | cons c cs ih =>
    rw [List.flatMap_cons, List.append_assoc, readText_jsonChar, ih]
    rfl

/-! ### One law for each sort of value -/

section

variable {calls : Nat} {cs behind rest more : List Char}

theorem skipSpace_append {gap : List Char} (hgap : gap ⊆ spaces) (cs : List Char) :
    skipSpace (gap ++ cs) = skipSpace cs := by
  rw [skipSpace, skipSpace, List.dropWhile_append_of_pos]
  intro c hc
  exact List.elem_eq_true_of_mem (hgap hc)

theorem readValue_null (h : skipSpace cs = 'n' :: 'u' :: 'l' :: 'l' :: rest) :
    readValue (calls + 1) cs = some (.null, rest) := by
  simp only [readValue, h]

theorem readValue_text {s : List Char} (h : skipSpace cs = '\x22' :: behind)
    (hread : readText none behind = some (s, rest)) :
    readValue (calls + 1) cs = some (.text (String.ofList s), rest) := by
  simp only [readValue, h, hread, Option.bind_eq_bind, Option.bind_some, Option.pure_def]

/-- No value begins with the mark that closes a list. -/
theorem skipSpace_ne_of_readItems {items : List Json}
    (h : readItems calls cs = some (items, rest)) :
    skipSpace cs ≠ ']' :: more := by
  intro hclosed
  cases calls with
  | zero => cases h
  | succ calls =>
    have hnone : readValue calls cs = none := by
      cases calls with
      | zero => rfl
      | succ calls =>
        rw [readValue, hclosed]
        rfl
    rw [readItems, hnone] at h
    cases h

theorem readValue_list {items : List Json} (h : skipSpace cs = '[' :: behind)
    (hread : readItems calls behind = some (items, rest)) :
    readValue (calls + 1) cs = some (.list items, rest) := by
  simp only [readValue, h]
  split
  · next hclosed => exact absurd hclosed (skipSpace_ne_of_readItems hread)
  · simp only [hread, Option.bind_eq_bind, Option.bind_some, Option.pure_def]

/-- An item in front of the closing bracket is the last one. -/
theorem readItems_last {item : Json} (hitem : readValue calls cs = some (item, rest))
    (hclosed : skipSpace rest = ']' :: more) : readItems (calls + 1) cs = some ([item], more) := by
  simp only [readItems, hitem, hclosed, Option.bind_eq_bind, Option.bind_some, Option.pure_def]

/-- An item in front of a comma is followed by more. -/
theorem readItems_more {item : Json} {items : List Json}
    (hitem : readValue calls cs = some (item, rest)) (hcomma : skipSpace rest = ',' :: behind)
    (hitems : readItems calls behind = some (items, more)) :
    readItems (calls + 1) cs = some (item :: items, more) := by
  simp only [readItems, hitem, hcomma, hitems, Option.bind_eq_bind, Option.bind_some,
    Option.pure_def]

theorem readName_eq {name : List Char} (h : skipSpace cs = '\x22' :: behind)
    (hread : readText none behind = some (name, rest)) (hcolon : skipSpace rest = ':' :: more) :
    readName cs = some (String.ofList name, more) := by
  simp only [readName, h, hread, hcolon, Option.bind_eq_bind, Option.bind_some, Option.pure_def]

/-- A name does not begin with the mark that closes an object. -/
theorem skipSpace_ne_of_readMembers {members : List (String × Json)}
    (h : readMembers calls cs = some (members, rest)) : skipSpace cs ≠ '\x7d' :: more := by
  intro hclosed
  cases calls with
  | zero => cases h
  | succ calls =>
    have hnone : readName cs = none := by
      rw [readName, hclosed]
      rfl
    rw [readMembers, hnone] at h
    cases h

theorem readValue_object {members : List (String × Json)} (h : skipSpace cs = '\x7b' :: behind)
    (hread : readMembers calls behind = some (members, rest)) :
    readValue (calls + 1) cs = some (.object members, rest) := by
  simp only [readValue, h]
  split
  · next hclosed => exact absurd hclosed (skipSpace_ne_of_readMembers hread)
  · simp only [hread, Option.bind_eq_bind, Option.bind_some, Option.pure_def]

/-- A member in front of the closing brace is the last one. -/
theorem readMembers_last {name : String} {value : Json} {found : List Char}
    (hname : readName cs = some (name, found)) (hvalue : readValue calls found = some (value, rest))
    (hclosed : skipSpace rest = '\x7d' :: more) :
    readMembers (calls + 1) cs = some ([(name, value)], more) := by
  simp only [readMembers, hname, hvalue, hclosed, Option.bind_eq_bind, Option.bind_some,
    Option.pure_def]

/-- A member in front of a comma is followed by more. -/
theorem readMembers_more {name : String} {value : Json} {found : List Char}
    {members : List (String × Json)} (hname : readName cs = some (name, found))
    (hvalue : readValue calls found = some (value, rest)) (hcomma : skipSpace rest = ',' :: behind)
    (hmembers : readMembers calls behind = some (members, more)) :
    readMembers (calls + 1) cs = some ((name, value) :: members, more) := by
  simp only [readMembers, hname, hvalue, hcomma, hmembers, Option.bind_eq_bind, Option.bind_some,
    Option.pure_def]

end

/-! ### Layouts that are read back -/

/-- Whatever stands behind them, the characters are read as the value, as soon as so many readers
may be at work within each other. -/
def Says (calls : Nat) (cs : List Char) (value : Json) : Prop :=
  ∀ n, calls ≤ n → ∀ rest, readValue n (cs ++ rest) = some (value, rest)

/-- Parts between two marks, with blanks behind the first mark and in front of the last one, and a
comma and blanks between two parts. -/
def laidOut (opening closing : Char) (inner outer : List Char) (parts : List (List Char)) :
    List Char :=
  opening :: (inner ++ ((',' :: inner).intercalate parts ++ (outer ++ [closing])))

/-- A name, a colon, a blank and what is written for the value. -/
def namedChars (name : String) (written : List Char) : List Char :=
  jsonChars name.toList ++ ':' :: ' ' :: written

/-- The characters say a member: its name, and its value. -/
def SaysMember (calls : Nat) (cs : List Char) (member : String × Json) : Prop :=
  ∃ written, cs = namedChars member.1 written ∧ Says calls written member.2

variable {calls n : Nat} {cs inner outer : List Char} {parts : List (List Char)}

theorem readValue_append_spaces (hinner : inner ⊆ spaces) (calls : Nat) (cs : List Char) :
    readValue calls (inner ++ cs) = readValue calls cs := by
  cases calls with
  | zero => rfl
  | succ calls => rw [readValue, readValue, skipSpace_append hinner]

/-- An indented value says the same. -/
theorem Says.indent {value : Json} (h : Says calls cs value) (hinner : inner ⊆ spaces) :
    Says calls (inner ++ cs) value := by
  intro n hn rest
  rw [List.append_assoc, readValue_append_spaces hinner]
  exact h n hn rest

/-- The word says null. -/
theorem says_null : Says 1 ['n', 'u', 'l', 'l'] .null := by
  rintro (_ | n) hn rest
  · omega
  · exact readValue_null rfl

/-- An escaped text between quotes says that text. -/
theorem says_text (s : String) : Says 1 (jsonChars s.toList) (.text s) := by
  rintro (_ | n) hn rest
  · omega
  · have hread : readText none (s.toList.flatMap jsonChar ++ ['\x22'] ++ rest)
        = some (s.toList, rest) := by
      rw [List.append_assoc]
      exact readText_flatMap s.toList rest
    exact (readValue_text rfl hread).trans (by rw [String.ofList_toList])

theorem readName_namedChars (hinner : inner ⊆ spaces) (name : String) (written : List Char) :
    readName (inner ++ namedChars name written) = some (name, ' ' :: written) := by
  have hquote : skipSpace (inner ++ namedChars name written) = '\x22' ::
      (name.toList.flatMap jsonChar ++ '\x22' :: ':' :: ' ' :: written) := by
    rw [skipSpace_append hinner, namedChars, jsonChars]
    simp only [List.cons_append, List.append_assoc, List.nil_append]
    rfl
  rw [readName_eq hquote (readText_flatMap _ _) rfl, String.ofList_toList]

/-- Each item takes one reader for itself, which is at work until the list ends. -/
theorem readItems_intercalate {items : List Json} (hinner : inner ⊆ spaces)
    (houter : outer ⊆ spaces)
    (h : List.Forall₂ (Says calls) parts items) (hne : parts ≠ []) (hn : calls + parts.length ≤ n)
    (rest : List Char) :
    readItems n (inner ++ ((',' :: inner).intercalate parts ++ (outer ++ ']' :: rest)))
      = some (items, rest) := by
  induction h generalizing n with
  | nil => exact absurd rfl hne
  | @cons part item parts items hpart hparts ih =>
    obtain ⟨n, rfl⟩ : ∃ k, n = k + 1 := Nat.exists_eq_add_one.mpr (by simp at hn; omega)
    rw [List.length_cons] at hn
    have hitem : ∀ behind, readValue n (inner ++ (part ++ behind)) = some (item, behind) := by
      intro behind
      rw [readValue_append_spaces hinner]
      exact hpart n (by omega) behind
    cases hparts with
    | nil =>
      rw [List.intercalate_singleton]
      exact readItems_last (hitem _) (skipSpace_append houter _)
    | cons hnext hothers =>
      rw [List.intercalate_cons_cons, List.append_assoc, List.append_assoc]
      exact readItems_more (hitem _) rfl (ih (by simp) (by omega))

/-- Members with commas between them are read one after the other. -/
theorem readMembers_intercalate {members : List (String × Json)} (hinner : inner ⊆ spaces)
    (houter : outer ⊆ spaces) (h : List.Forall₂ (SaysMember calls) parts members)
    (hne : parts ≠ []) (hn : calls + parts.length ≤ n) (rest : List Char) :
    readMembers n (inner ++ ((',' :: inner).intercalate parts ++ (outer ++ '\x7d' :: rest)))
      = some (members, rest) := by
  induction h generalizing n with
  | nil => exact absurd rfl hne
  | @cons part member parts members hpart hparts ih =>
    obtain ⟨n, rfl⟩ : ∃ k, n = k + 1 := Nat.exists_eq_add_one.mpr (by simp at hn; omega)
    rw [List.length_cons] at hn
    obtain ⟨written, rfl, hwritten⟩ := hpart
    have hvalue : ∀ behind, readValue n (' ' :: (written ++ behind)) = some (member.2, behind) := by
      intro behind
      exact (hwritten.indent (by decide : [' '] ⊆ spaces)) n (by omega) behind
    have happend : ∀ behind, namedChars member.1 written ++ behind
        = namedChars member.1 (written ++ behind) := by
      intro behind
      simp only [namedChars, List.append_assoc, List.cons_append]
    cases hparts with
    | nil =>
      rw [List.intercalate_singleton, happend]
      exact readMembers_last (readName_namedChars hinner _ _) (hvalue _)
        (skipSpace_append houter _)
    | cons hnext hothers =>
      rw [List.intercalate_cons_cons, List.append_assoc, List.append_assoc, happend]
      exact readMembers_more (readName_namedChars hinner _ _) (hvalue _) rfl
        (ih (by simp) (by omega))

/-- A laid out collection begins with its bracket. -/
theorem skipSpace_laidOut {opening closing : Char} {rest : List Char}
    (hopening : opening ∉ spaces) :
    skipSpace (laidOut opening closing inner outer parts ++ rest)
      = opening :: (inner ++ ((',' :: inner).intercalate parts ++ (outer ++ closing :: rest))) := by
  rw [laidOut, List.cons_append, skipSpace, List.dropWhile_cons_of_neg (by simp [hopening])]
  simp only [List.append_assoc, List.cons_append, List.nil_append]

/-- Items that are laid out say their list. -/
theorem says_list {items : List Json} (hinner : inner ⊆ spaces) (houter : outer ⊆ spaces)
    (h : List.Forall₂ (Says calls) parts items) (hne : parts ≠ []) :
    Says (calls + parts.length + 1) (laidOut '[' ']' inner outer parts) (.list items) := by
  rintro (_ | n) hn rest
  · omega
  · refine readValue_list (skipSpace_laidOut (by decide)) ?_
    exact readItems_intercalate hinner houter h hne (by omega) rest

/-- Members that are laid out say their object. -/
theorem says_object {members : List (String × Json)} (hinner : inner ⊆ spaces)
    (houter : outer ⊆ spaces) (h : List.Forall₂ (SaysMember calls) parts members)
    (hne : parts ≠ []) :
    Says (calls + parts.length + 1) (laidOut '\x7b' '\x7d' inner outer parts)
      (.object members) := by
  rintro (_ | n) hn rest
  · omega
  · refine readValue_object (skipSpace_laidOut (by decide)) ?_
    exact readMembers_intercalate hinner houter h hne (by omega) rest

/-- A text that says a value is a document of it. -/
theorem decode?_of_says {document : String} {value : Json} (h : Says calls document.toList value)
    (hcalls : calls ≤ document.toList.length) : decode? document = some value := by
  have hread := h _ hcalls []
  rw [List.append_nil] at hread
  rw [decode?, hread]
  rfl

end Json
end QueryTemplates
