import QueryTemplates.Proofs.Fragment.Phrase

/-!
# Balanced texts

A scan of a text keeps the brackets that are open. Within quotes brackets do not count, and a
backslash takes the next character along. A text is steady when the scan comes out of it as it went
in, whatever was open before: steady texts may stand one behind the other, between quotes written
for them, and between brackets that fit together.

About the texts of `SPEC_FULL.md` §1 (lines 8–18).
-/

namespace QueryTemplates

/-- Where a scan is: outside of quotes, within them, or behind a backslash within them. -/
inductive ScanMode where
  | outside
  | quoted
  | escaped
deriving DecidableEq

/-- A scan on its way through a text. -/
structure Scan where
  mode : ScanMode
  /-- The brackets that are open, the innermost first. -/
  opened : List Char
deriving DecidableEq

/-- The characters that a scan looks at. -/
def delimiters : List Char := ['\x22', '\\', '(', ')', '[', ']', '\x7b', '\x7d']

/-- The bracket closes what the other one opened: a parenthesis a parenthesis, and either bracket of
a range either bracket of a range. -/
def closes (closing opening : Char) : Bool :=
  if closing = ')' then opening == '(' else opening == '[' || opening == '\x7b'

namespace Scan

/-- The innermost open bracket is closed, if it is one that the closing one fits. -/
def close (closing : Char) : List Char → Option Scan
  | [] => none
  | opening :: outer => if closes closing opening then some ⟨.outside, outer⟩ else none

/-- The scan behind one more character; none when a bracket closes what it does not fit. -/
def step : Scan → Char → Option Scan
  | ⟨.escaped, opened⟩, _ => some ⟨.quoted, opened⟩
  | ⟨.quoted, opened⟩, c =>
    if c = '\\' then some ⟨.escaped, opened⟩
    else if c = '\x22' then some ⟨.outside, opened⟩
    else some ⟨.quoted, opened⟩
  | ⟨.outside, opened⟩, c =>
    if c = '\x22' then some ⟨.quoted, opened⟩
    else if c ∈ ['(', '[', '\x7b'] then some ⟨.outside, c :: opened⟩
    else if c ∈ [')', ']', '\x7d'] then close c opened
    else some ⟨.outside, opened⟩

/-- The scan behind a text. -/
def run (scan : Scan) (cs : List Char) : Option Scan := cs.foldlM step scan

/-- The scan before any text. -/
def start : Scan := ⟨.outside, []⟩

theorem run_cons (scan : Scan) (c : Char) (cs : List Char) :
    scan.run (c :: cs) = (scan.step c).bind (run · cs) := rfl

/-- A scan goes through joined texts one after the other. -/
theorem run_append (scan : Scan) (cs ds : List Char) :
    scan.run (cs ++ ds) = (scan.run cs).bind (run · ds) := by
  rw [run, List.foldlM_append]
  rfl

end Scan

/-- Every bracket of the text closes one that it fits, and at the end neither quotes nor brackets
are open. -/
def Balanced (text : String) : Prop := Scan.start.run text.toList = some .start

/-- A scan that is not within quotes comes out of the text as it went in. -/
def Steady (text : String) : Prop :=
  ∀ opened, Scan.run ⟨.outside, opened⟩ text.toList = some ⟨.outside, opened⟩

/-- What changes no scan is balanced on its own. -/
theorem Steady.balanced {text : String} (h : Steady text) : Balanced text := h []

/-! ### Plain texts -/

/-- No delimiter occurs in the text. -/
def Plain (text : String) : Prop := ∀ c ∈ text.toList, c ∉ delimiters

instance (text : String) : Decidable (Plain text) :=
  List.decidableBAll (fun c => c ∉ delimiters) text.toList

section

variable {c : Char}

/-- Outside of quotes a character that delimits nothing changes nothing. -/
theorem step_outside_of_plain (h : c ∉ delimiters) (opened : List Char) :
    Scan.step ⟨.outside, opened⟩ c = some ⟨.outside, opened⟩ := by
  simp only [delimiters, List.mem_cons, List.not_mem_nil, not_or, or_false] at h
  simp [Scan.step, h]

theorem step_quoted_of_plain (h : c ∉ delimiters) (opened : List Char) :
    Scan.step ⟨.quoted, opened⟩ c = some ⟨.quoted, opened⟩ := by
  simp only [delimiters, List.mem_cons, List.not_mem_nil, not_or, or_false] at h
  simp [Scan.step, h]

/-- Characters none of which changes the scan leave it as it is. -/
theorem run_of_plain {mode : ScanMode} {opened cs : List Char}
    (hstep : ∀ c ∈ cs, Scan.step ⟨mode, opened⟩ c = some ⟨mode, opened⟩) :
    Scan.run ⟨mode, opened⟩ cs = some ⟨mode, opened⟩ := by
  induction cs with
  | nil => rfl
  | cons c cs ih =>
    obtain ⟨hc, hcs⟩ := List.forall_mem_cons.mp hstep
    rw [Scan.run_cons, hc, Option.bind_some, ih hcs]

end

/-- Text without delimiters changes no scan. -/
theorem Plain.steady {text : String} (h : Plain text) : Steady text := fun opened =>
  run_of_plain fun c hc => step_outside_of_plain (h c hc) opened

/-! ### Quotes -/

/-- The scan stays within quotes over the characters. -/
def StaysQuoted (cs : List Char) : Prop :=
  ∀ opened, Scan.run ⟨.quoted, opened⟩ cs = some ⟨.quoted, opened⟩

theorem Plain.staysQuoted {text : String} (h : Plain text) : StaysQuoted text.toList :=
  fun opened => run_of_plain fun c hc => step_quoted_of_plain (h c hc) opened

/-- What stays between quotes may be joined. -/
theorem StaysQuoted.append {cs ds : List Char} (hcs : StaysQuoted cs) (hds : StaysQuoted ds) :
    StaysQuoted (cs ++ ds) := by
  intro opened
  rw [Scan.run_append, hcs opened, Option.bind_some, hds opened]

/-- Escaped text has no quote that would end the quotes around it. -/
theorem staysQuoted_escapeChars (cs : List Char) : StaysQuoted (escapeChars cs) := by
  intro opened
  induction cs with
  | nil => rfl
  | cons c cs ih =>
    rw [escapeChars_cons, Scan.run_append]
    by_cases h : isReserved c = true
    · -- the backslash takes the reserved character along
      rw [escapeChar_of_reserved h]
      exact ih
    · have hslash : c ≠ '\\' := fun hc => h (isReserved_of_escapes (.inl hc))
      have hquote : c ≠ '\x22' := fun hc => h (isReserved_of_escapes (.inr hc))
      have hstep : Scan.step ⟨.quoted, opened⟩ c = some ⟨.quoted, opened⟩ := by
        simp [Scan.step, hslash, hquote]
      rw [escapeChar_of_not_reserved h, Scan.run_cons, hstep]
      exact ih

/-- Quotes around what stays between them change no scan. -/
theorem steady_quoted {text : String} {cs : List Char}
    (htext : text.toList = '\x22' :: (cs ++ ['\x22'])) (h : StaysQuoted cs) : Steady text := by
  intro opened
  rw [htext, Scan.run_cons]
  show Scan.run ⟨.quoted, opened⟩ (cs ++ ['\x22']) = _
  rw [Scan.run_append, h opened]
  rfl

/-- A term changes no scan, whatever its words are. -/
theorem steady_term (words : String) : Steady (Fragment.term words) :=
  steady_quoted (toList_term words) (staysQuoted_escapeChars words.toList)

/-! ### Texts in a row and in brackets -/

theorem Steady.append {s t : String} (hs : Steady s) (ht : Steady t) : Steady (s ++ t) := by
  intro opened
  rw [String.toList_append, Scan.run_append, hs opened, Option.bind_some, ht opened]

/-- Joined texts change no scan if none of them does. -/
theorem steady_join {texts : List String} (h : ∀ text ∈ texts, Steady text) :
    Steady (String.join texts) := by
  induction texts with
  | nil => exact fun _ => rfl
  | cons text rest ih =>
    obtain ⟨htext, hrest⟩ := List.forall_mem_cons.mp h
    rw [String.join_cons]
    exact htext.append (ih hrest)

/-- What stands between brackets that fit together is steady with them. -/
theorem Steady.enclosed {inside text : String} (h : Steady inside) {opening closing : Char}
    (htext : text.toList = opening :: (inside.toList ++ [closing]))
    (hopening : opening ∈ ['(', '[', '\x7b']) (hclosing : closing ∈ [')', ']', '\x7d'])
    (hcloses : closes closing opening = true) : Steady text := by
  intro opened
  have hopen : Scan.step ⟨.outside, opened⟩ opening = some ⟨.outside, opening :: opened⟩ := by
    have hquote : opening ≠ '\x22' := by
      rintro rfl
      exact absurd hopening (by decide)
    rw [Scan.step, if_neg hquote, if_pos hopening]
  have hclose : Scan.step ⟨.outside, opening :: opened⟩ closing = some ⟨.outside, opened⟩ := by
    have hquote : closing ≠ '\x22' := by
      rintro rfl
      exact absurd hclosing (by decide)
    have hnot : closing ∉ ['(', '[', '\x7b'] := by
      intro hmem
      simp only [List.mem_cons, List.not_mem_nil, or_false] at hclosing
      rcases hclosing with rfl | rfl | rfl <;> exact absurd hmem (by decide)
    rw [Scan.step, if_neg hquote, if_neg hnot, if_pos hclosing, Scan.close, if_pos hcloses]
  rw [htext, Scan.run_cons, hopen, Option.bind_some, Scan.run_append, h, Option.bind_some,
    Scan.run_cons, hclose]
  rfl

end QueryTemplates
