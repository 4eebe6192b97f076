import QueryTemplates.Placeholder.Spec

/-!
# Template texts

A template text is literal text with placeholders in braces; a doubled brace stands for itself. A
placeholder names a part of the data, may convert it, and may say how it is laid out. Reading never
fails as a whole: it gives the segments up to the first fault and the fault as the last segment, so
that what stands before a fault is still looked up first.

Models `SPEC_FULL.md` §11 (lines 202–203).
-/

namespace QueryTemplates

/-- A fault in the braces of a template text. -/
inductive BraceError where
  | loneOpening
  | loneClosing
  | unclosed
  | openingInName
  | noConversion
  | noSpecBehindConversion
  | unclosedSpec
deriving DecidableEq

/-- The fault in words. -/
def BraceError.message : BraceError → String
  | .loneOpening => "Single '\x7b' encountered in format string"
  | .loneClosing => "Single '\x7d' encountered in format string"
  | .unclosed => "expected '\x7d' before end of string"
  | .openingInName => "unexpected '\x7b' in field name"
  | .noConversion => "end of string while looking for conversion specifier"
  | .noSpecBehindConversion => "expected ':' after conversion specifier"
  | .unclosedSpec => "unmatched '\x7b' in format spec"

/-- What stands in the braces of a placeholder. -/
structure Field where
  name : List Char
  conversion : Option Char
  spec : List Char
  /-- The specification holds placeholders itself. -/
  nested : Bool
deriving DecidableEq

/-- A piece of a template text. -/
inductive Segment where
  | literal (text : List Char)
  | field (field : Field)
  | malformed (cause : BraceError)
deriving DecidableEq

/-- Reads a name up to the character that ends it, which is given with the rest. Between square
brackets any character belongs to the name. -/
def readName (inBrackets : Bool) : List Char → Except BraceError (List Char × Char × List Char)
  | [] => .error .unclosed
  | c :: rest =>
    let longer (inBrackets : Bool) := do
      let (name, stop, rest) ← readName inBrackets rest
      return (c :: name, stop, rest)
    if inBrackets then longer (c != ']')
    else match c with
      | '{' => .error .openingInName
      | '}' => .ok ([], '}', rest)
      | ':' => .ok ([], ':', rest)
      | '!' => .ok ([], '!', rest)
      | c => longer (c == '[')

/-- Reads a specification up to the brace that closes the placeholder; `depth` braces are open in
it. -/
def readSpec (depth : Nat) : List Char → Except BraceError (List Char × List Char)
  | [] => .error .unclosedSpec
  | c :: rest =>
    let longer (depth : Nat) := do
      let (spec, rest) ← readSpec depth rest
      return (c :: spec, rest)
    match c, depth with
    | '{', depth => longer (depth + 1)
    | '}', 0 => .ok ([], rest)
    | '}', depth + 1 => longer depth
    | _, depth => longer depth

/-- Reads the specification of a placeholder whose name and conversion are read. -/
def readSpecField (name : List Char) (conversion : Option Char) (cs : List Char) :
    Except BraceError (Field × List Char) :=
  match readSpec 0 cs with
  | .ok (spec, rest) => .ok (⟨name, conversion, spec, spec.contains '{'⟩, rest)
  | .error cause => .error cause

/-- Reads what follows the name of a placeholder, from the character that ended the name. -/
def readFieldEnd (name : List Char) (stop : Char) (cs : List Char) :
    Except BraceError (Field × List Char) :=
  match stop, cs with
  | '!', [] => .error .noConversion
  | '!', [c] => readSpecField name (some c) []
  | '!', c :: '}' :: rest => .ok (⟨name, some c, [], false⟩, rest)
  | '!', c :: ':' :: rest => readSpecField name (some c) rest
  | '!', _ :: _ :: _ => .error .noSpecBehindConversion
  | ':', rest => readSpecField name none rest
  | _, rest => .ok (⟨name, none, [], false⟩, rest)

/-- Reads a placeholder behind its opening brace. -/
def readField (cs : List Char) : Except BraceError (Field × List Char) :=
  match readName false cs with
  | .ok (name, stop, rest) => readFieldEnd name stop rest
  | .error cause => .error cause

/-- The name of a placeholder ends behind a character of the text. -/
theorem length_readName {inBrackets : Bool} {cs name rest : List Char} {stop : Char}
    (h : readName inBrackets cs = .ok (name, stop, rest)) : rest.length < cs.length := by
  induction cs generalizing inBrackets name with
  | nil => simp [readName] at h
  | cons c cs ih =>
    have step : ∀ b, (do
        let (name, stop, rest) ← readName b cs
        return (c :: name, stop, rest)) = Except.ok (name, stop, rest) →
        rest.length < (c :: cs).length := by
      intro b hb
      cases hr : readName b cs with
      | error e => simp [hr, bind, Except.bind] at hb
      | ok t =>
        obtain ⟨n, s, r⟩ := t
        simp only [hr, bind, Except.bind, pure, Except.pure, Except.ok.injEq,
          Prod.mk.injEq] at hb
        obtain ⟨-, rfl, rfl⟩ := hb
        exact Nat.lt_succ_of_lt (ih hr)
    simp only [readName] at h
    split at h
    · exact step _ h
    · split at h
      · simp at h
      · simp_all
      · simp_all
      · simp_all
      · exact step _ h

theorem length_readSpec {depth : Nat} {cs spec rest : List Char}
    (h : readSpec depth cs = .ok (spec, rest)) : rest.length < cs.length := by
  induction cs generalizing depth spec with
  | nil => simp [readSpec] at h
  | cons c cs ih =>
    have step : ∀ d, (do
        let (spec, rest) ← readSpec d cs
        return (c :: spec, rest)) = Except.ok (spec, rest) →
        rest.length < (c :: cs).length := by
      intro d hd
      cases hr : readSpec d cs with
      | error e => simp [hr, bind, Except.bind] at hd
      | ok t =>
        obtain ⟨s, r⟩ := t
        simp only [hr, bind, Except.bind, pure, Except.pure, Except.ok.injEq,
          Prod.mk.injEq] at hd
        obtain ⟨-, rfl⟩ := hd
        exact Nat.lt_succ_of_lt (ih hr)
    simp only [readSpec] at h
    split at h
    · exact step _ h
    · simp_all
    · exact step _ h
    · exact step _ h

/-- A placeholder with a specification ends behind its closing brace. -/
theorem length_readSpecField {name cs rest : List Char} {conversion : Option Char} {field : Field}
    (h : readSpecField name conversion cs = .ok (field, rest)) : rest.length < cs.length := by
  simp only [readSpecField] at h
  split at h
  · next hs =>
    simp only [Except.ok.injEq, Prod.mk.injEq] at h
    obtain ⟨-, rfl⟩ := h
    exact length_readSpec hs
  · simp at h

/-- What ends the name of a placeholder is followed by no more text than before. -/
theorem length_readFieldEnd {name cs rest : List Char} {stop : Char} {field : Field}
    (h : readFieldEnd name stop cs = .ok (field, rest)) : rest.length ≤ cs.length := by
  simp only [readFieldEnd] at h
  split at h
  · simp at h
  · simpa using (length_readSpecField h)
  · simp only [Except.ok.injEq, Prod.mk.injEq] at h
    simp only [← h.2, List.length_cons]
    omega
  · have := length_readSpecField h
    simp only [List.length_cons]
    omega
  · simp at h
  · exact Nat.le_of_lt (length_readSpecField h)
  · simp only [Except.ok.injEq, Prod.mk.injEq] at h
    simp [h.2]

/-- Reading a placeholder gets on, so that reading a text ends. -/
theorem length_readField {cs rest : List Char} {field : Field}
    (h : readField cs = .ok (field, rest)) : rest.length < cs.length := by
  simp only [readField] at h
  split at h
  · next hn => exact Nat.lt_of_le_of_lt (length_readFieldEnd h) (length_readName hn)
  · simp at h

/-- The segments of a template text; `literal` is the text before the next placeholder, last
character first. -/
def readSegments (literal : List Char) (cs : List Char) : List Segment :=
  match cs with
  | [] => [.literal literal.reverse]
  | '{' :: '{' :: rest => readSegments ('{' :: literal) rest
  | '}' :: '}' :: rest => readSegments ('}' :: literal) rest
  | '}' :: _ => [.malformed .loneClosing]
  | ['{'] => [.malformed .loneOpening]
  | '{' :: rest =>
    match h : readField rest with
    | .error cause => [.malformed cause]
    | .ok (field, behind) =>
      have := length_readField h
      .literal literal.reverse :: .field field :: readSegments [] behind
  | c :: rest => readSegments (c :: literal) rest
termination_by cs.length
decreasing_by
  · simp only [List.length_cons]; omega
  · simp only [List.length_cons]; omega
  · exact Nat.lt_succ_of_lt this
  · simp only [List.length_cons]; omega

/-- The segments of a template text. -/
def segments (cs : List Char) : List Segment := readSegments [] cs

/-- A fault in the name of a placeholder. -/
inductive NameError where
  | positional
  | emptyPart
  | unclosedBracket
  | strayText
  | tooManyDigits
deriving DecidableEq

/-- The fault in words. -/
def NameError.message : NameError → String
  | .positional => "Format string contains positional fields"
  | .emptyPart => "Empty attribute in format string"
  | .unclosedBracket => "Missing ']' in format string"
  | .strayText => "Only '.' or '[' may follow ']' in format field specifier"
  | .tooManyDigits => "Too many decimal digits in format string"

/-- A step from a value to a part of it. -/
inductive Access where
  | attribute (name : String)
  | key (name : String)
  | index (place : Nat)
  | malformed (cause : NameError)
deriving DecidableEq

/-- The number that a text of decimal digits alone stands for; `none` for other texts. Digits are
counted up to the first other character. -/
def indexOf? (cs : List Char) : Except NameError (Option Nat) :=
  match readCount 0 0 cs with
  | .error _ => .error .tooManyDigits
  | .ok (value, digits, []) => .ok (if digits = 0 then none else some value)
  | .ok _ => .ok none

/-- The step that stands in square brackets: digits alone are an index. -/
def bracketAccess (cs : List Char) : Access :=
  match indexOf? cs with
  | .error cause => .malformed cause
  | .ok (some place) => .index place
  | .ok none => if cs.isEmpty then .malformed .emptyPart else .key (String.ofList cs)

/-- A character that begins a step. -/
def beginsAccess (c : Char) : Bool := c == '.' || c == '['

/-- The steps behind the first part of a name, up to the first fault. -/
def readAccesses (cs : List Char) : List Access :=
  match cs with
  | [] => []
  | '.' :: rest =>
    let name := rest.takeWhile (!beginsAccess ·)
    if name.isEmpty then [.malformed .emptyPart]
    else .attribute (String.ofList name) :: readAccesses (rest.dropWhile (!beginsAccess ·))
  | '[' :: rest =>
    match h : rest.dropWhile (· != ']') with
    | [] => [.malformed .unclosedBracket]
    | _ :: behind =>
      have : behind.length < ('[' :: rest).length := by
        have : (rest.dropWhile (· != ']')).length ≤ rest.length :=
          (List.dropWhile_sublist _).length_le
        simp only [h, List.length_cons] at this ⊢
        omega
      bracketAccess (rest.takeWhile (· != ']')) :: readAccesses behind
  | _ => [.malformed .strayText]
termination_by cs.length
decreasing_by
  · have : (rest.dropWhile (!beginsAccess ·)).length ≤ rest.length :=
      (List.dropWhile_sublist _).length_le
    simp only [List.length_cons]
    omega
  · simp only [List.length_cons] at this ⊢
    omega

/-- The name of a placeholder: a key of the data and steps from its value. -/
structure FieldName where
  first : String
  steps : List Access
deriving DecidableEq

/-- Reads the name of a placeholder. A first part that is empty or a number asks for a position,
which data has not. -/
def readFieldName (cs : List Char) : Except NameError FieldName :=
  let first := cs.takeWhile (!beginsAccess ·)
  match indexOf? first with
  | .error cause => .error cause
  | .ok (some _) => .error .positional
  | .ok none =>
    if first.isEmpty then .error .positional
    else .ok ⟨String.ofList first, readAccesses (cs.dropWhile (!beginsAccess ·))⟩

end QueryTemplates
