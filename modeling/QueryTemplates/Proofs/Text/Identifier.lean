import QueryTemplates.Placeholder.Field
import QueryTemplates.Text.Blank

/-!
# Identifiers

An identifier is an ASCII letter or an underscore, followed by ASCII letters, digits and
underscores. None of its characters means anything to the readers of options and placeholders, and
an identifier is never taken for an index.
-/

namespace QueryTemplates

/-- The character begins identifiers. -/
def beginsIdentifier (c : Char) : Bool := c.isAlpha || c == '_'

/-- The character stands in identifiers. -/
def isIdentifierChar (c : Char) : Bool := c.isAlphanum || c == '_'

/-- The text is an identifier. -/
def isIdentifier (text : String) : Bool :=
  match text.toList with
  | [] => false
  | c :: cs => beginsIdentifier c && cs.all isIdentifierChar

/-! ### Characters -/

section

variable {c : Char}

/-- A character that begins identifiers may also stand in them. -/
theorem isIdentifierChar_of_begins (h : beginsIdentifier c = true) : isIdentifierChar c = true := by
  rcases Bool.or_eq_true_iff.mp h with h | h
  · rw [isIdentifierChar, Char.isAlphanum, h]
    rfl
  · rw [isIdentifierChar, h, Bool.or_true]

/-- Characters of identifiers are none of the others. -/
theorem ne_of_isIdentifierChar (h : isIdentifierChar c = true) {d : Char}
    (hd : isIdentifierChar d = false) : c ≠ d := by
  rintro rfl
  rw [h] at hd
  cases hd

theorem toNat_of_isDigit (h : c.isDigit = true) : 48 ≤ c.toNat ∧ c.toNat ≤ 57 := by
  obtain ⟨hlow, hhigh⟩ := Bool.and_eq_true_iff.mp h
  exact ⟨UInt32.le_iff_toNat_le.mp (of_decide_eq_true hlow),
    UInt32.le_iff_toNat_le.mp (of_decide_eq_true hhigh)⟩

theorem toNat_of_isAlpha (h : c.isAlpha = true) : 65 ≤ c.toNat ∧ c.toNat ≤ 122 := by
  rcases Bool.or_eq_true_iff.mp h with h | h
  · have hrange : 'A'.val ≤ c.val ∧ c.val ≤ 'Z'.val := of_decide_eq_true h
    have hlow : 65 ≤ c.toNat := UInt32.le_iff_toNat_le.mp hrange.1
    have hhigh : c.toNat ≤ 90 := UInt32.le_iff_toNat_le.mp hrange.2
    omega
  · obtain ⟨hlow, hhigh⟩ := Bool.and_eq_true_iff.mp h
    have hlow : 97 ≤ c.toNat := UInt32.le_iff_toNat_le.mp (of_decide_eq_true hlow)
    have hhigh : c.toNat ≤ 122 := UInt32.le_iff_toNat_le.mp (of_decide_eq_true hhigh)
    omega

theorem toNat_of_begins (h : beginsIdentifier c = true) : 65 ≤ c.toNat ∧ c.toNat ≤ 122 := by
  rcases Bool.or_eq_true_iff.mp h with h | h
  · exact toNat_of_isAlpha h
  · obtain rfl := beq_iff_eq.mp h
    decide

/-- All characters of identifiers lie between the digit zero and the letter z. -/
theorem toNat_of_isIdentifierChar (h : isIdentifierChar c = true) :
    48 ≤ c.toNat ∧ c.toNat ≤ 122 := by
  rcases Bool.or_eq_true_iff.mp h with h | h
  · rcases Bool.or_eq_true_iff.mp h with h | h
    · have := toNat_of_isAlpha h
      omega
    · have := toNat_of_isDigit h
      omega
  · obtain rfl := beq_iff_eq.mp h
    decide

/-- Identifiers hold no blanks. -/
theorem isBlank_of_isIdentifierChar (h : isIdentifierChar c = true) : isBlank c = false := by
  have hrange := toNat_of_isIdentifierChar h
  simp only [isBlank, blankRanges, List.any_cons, List.any_nil, Bool.or_eq_false_iff,
    Bool.and_eq_false_iff, decide_eq_false_iff_not, and_true]
  omega

/-- What begins an identifier is a digit in no script. -/
theorem decimalDigit?_of_begins (h : beginsIdentifier c = true) : decimalDigit? c = none := by
  have hrange := toNat_of_begins h
  have hzeros : ∀ start ∈ digitZeros, start = 0x30 ∨ 0x660 ≤ start := by decide
  rw [decimalDigit?, Option.map_eq_none_iff, List.find?_eq_none]
  intro start hstart
  rw [Bool.and_eq_true, decide_eq_true_eq, decide_eq_true_eq]
  rcases hzeros start hstart with h | h <;> omega

end

/-! ### Words up to a stop -/

section

variable {p : Char → Bool} {word : List Char} {stop : Char}

/-- The first character that does not belong to a word ends it. -/
theorem takeWhile_stop (hword : ∀ c ∈ word, p c = true) (hstop : p stop = false)
    (rest : List Char) : (word ++ stop :: rest).takeWhile p = word := by
  rw [List.takeWhile_append_of_pos hword, List.takeWhile_cons_of_neg (by simp [hstop]),
    List.append_nil]

/-- What stands behind a word begins with that character. -/
theorem dropWhile_stop (hword : ∀ c ∈ word, p c = true) (hstop : p stop = false)
    (rest : List Char) : (word ++ stop :: rest).dropWhile p = stop :: rest := by
  rw [List.dropWhile_append_of_pos hword, List.dropWhile_cons_of_neg (by simp [hstop])]

end

/-! ### Texts -/

section

variable {text : String}

theorem isIdentifier_iff :
    isIdentifier text = true ↔
      ∃ c cs, text.toList = c :: cs ∧ beginsIdentifier c = true ∧
        ∀ d ∈ cs, isIdentifierChar d = true := by
  rw [isIdentifier]
  cases text.toList with
  | nil => simp
  | cons c cs =>
    rw [Bool.and_eq_true, List.all_eq_true]
    constructor
    · exact fun h => ⟨c, cs, rfl, h⟩
    · rintro ⟨_, _, heq, h⟩
      obtain ⟨rfl, rfl⟩ := List.cons.inj heq
      exact h

/-- Each character of an identifier may stand in one. -/
theorem isIdentifierChar_of_mem (h : isIdentifier text = true) :
    ∀ c ∈ text.toList, isIdentifierChar c = true := by
  obtain ⟨c, cs, hcs, hfirst, hrest⟩ := isIdentifier_iff.mp h
  rw [hcs]
  exact List.forall_mem_cons.mpr ⟨isIdentifierChar_of_begins hfirst, hrest⟩

/-- No identifier is empty. -/
theorem toList_ne_nil_of_isIdentifier (h : isIdentifier text = true) : text.toList ≠ [] := by
  obtain ⟨c, cs, hcs, -⟩ := isIdentifier_iff.mp h
  rw [hcs]
  exact List.cons_ne_nil c cs

/-- A character that stands in no identifier is not in this one. -/
theorem notMem_of_isIdentifier (h : isIdentifier text = true) {c : Char}
    (hc : isIdentifierChar c = false) : c ∉ text.toList :=
  fun hmem => ne_of_isIdentifierChar (isIdentifierChar_of_mem h c hmem) hc rfl

/-- An identifier is no index. -/
theorem indexOf?_of_isIdentifier (h : isIdentifier text = true) :
    indexOf? text.toList = .ok none := by
  obtain ⟨c, cs, hcs, hfirst, -⟩ := isIdentifier_iff.mp h
  have hcount : readCount 0 0 (c :: cs) = .ok (0, 0, c :: cs) := by
    rw [readCount, decimalDigit?_of_begins hfirst]
  rw [indexOf?, hcs, hcount]

end

end QueryTemplates
