import QueryTemplates.Placeholder.Fill
import QueryTemplates.Proofs.Outcome
import QueryTemplates.Proofs.Text.Identifier
import QueryTemplates.Proofs.Value.Reach

/-!
# Names of placeholders

How the name of a placeholder is read where it consists of identifiers, the first by itself and the
others in square brackets, and what one such step finds in a mapping.

About `SPEC_FULL.md` §11 (lines 202–203).
-/

namespace QueryTemplates

section

variable {word cs name rest : List Char} {stop : Char}

/-- Between brackets every character belongs to the name. -/
theorem readName_true_cons {c : Char}
    (h : readName (c != ']') cs = .ok (name, stop, rest)) :
    readName true (c :: cs) = .ok (c :: name, stop, rest) := by
  unfold readName
  simp only [if_true, h]
  rfl

/-- Outside brackets those characters do that neither end a name nor open a placeholder. -/
theorem readName_false_cons {c : Char} (hc : c ∉ ['\x7b', '\x7d', ':', '!'])
    (h : readName (c == '[') cs = .ok (name, stop, rest)) :
    readName false (c :: cs) = .ok (c :: name, stop, rest) := by
  simp only [List.mem_cons, List.not_mem_nil, or_false, not_or] at hc
  obtain ⟨hopen, hclose, hcolon, hmark⟩ := hc
  rw [readName]
  · simp only [Bool.false_eq_true, if_false, h]
    rfl
  all_goals assumption

/-- An identifier outside brackets belongs to the name. -/
theorem readName_word (hword : ∀ c ∈ word, isIdentifierChar c = true)
    (h : readName false cs = .ok (name, stop, rest)) :
    readName false (word ++ cs) = .ok (word ++ name, stop, rest) := by
  induction word with
  | nil => exact h
  | cons c word ih =>
    obtain ⟨hc, hword⟩ := List.forall_mem_cons.mp hword
    have hbracket : (c == '[') = false :=
      beq_eq_false_iff_ne.mpr (ne_of_isIdentifierChar hc (by decide))
    refine readName_false_cons ?_ (by rw [hbracket]; exact ih hword)
    simp only [List.mem_cons, List.not_mem_nil, or_false, not_or]
    exact ⟨ne_of_isIdentifierChar hc (by decide), ne_of_isIdentifierChar hc (by decide),
      ne_of_isIdentifierChar hc (by decide), ne_of_isIdentifierChar hc (by decide)⟩

/-- What stands in brackets belongs to the name, up to the first closing one. -/
theorem readName_bracket (hword : ']' ∉ word)
    (h : readName false cs = .ok (name, stop, rest)) :
    readName true (word ++ ']' :: cs) = .ok (word ++ ']' :: name, stop, rest) := by
  induction word with
  | nil => exact readName_true_cons h
  | cons c word ih =>
    obtain ⟨hc, hword⟩ := List.ne_and_not_mem_of_not_mem_cons hword
    have hinside : (c != ']') = true := bne_iff_ne.mpr hc.symm
    exact readName_true_cons (by rw [hinside]; exact ih hword)

theorem readAccesses_nil : readAccesses [] = [] := by rw [readAccesses]

theorem readAccesses_bracket (hword : ']' ∉ word) (behind : List Char) :
    readAccesses ('[' :: (word ++ ']' :: behind)) = bracketAccess word :: readAccesses behind := by
  have hinside : ∀ c ∈ word, (c != ']') = true := by
    intro c hc
    rw [bne_iff_ne]
    rintro rfl
    exact hword hc
  have hkept : (word ++ ']' :: behind).takeWhile (· != ']') = word :=
    takeWhile_stop hinside rfl behind
  have hleft : (word ++ ']' :: behind).dropWhile (· != ']') = ']' :: behind :=
    dropWhile_stop hinside rfl behind
  rw [readAccesses]
  split
  · next h =>
    rw [hleft] at h
    cases h
  · next h =>
    rw [hleft] at h
    obtain ⟨-, rfl⟩ := List.cons.inj h
    rw [hkept]

end

/-- A text is a key of mappings only: what it finds in a value is what a mapping has there. -/
theorem item_str_eq_ok_iff {v w : Value} {key : String} :
    v.item (.str key) = .ok w ↔ v.part? (.str key) = some w := by
  have nothing {e : AccessError} : Except.error e = .ok w ↔ none = some w := by simp
  rw [Value.item, Value.part?, Value.entries?]
  cases v.bare with
  | map entries =>
    show (Except.ok (Mapping.get? entries (.str key)) >>= _) = _ ↔
      Mapping.get? entries (.str key) = some w
    rw [ok_bind]
    cases Mapping.get? entries (.str key) with
    | none => exact nothing
    | some part =>
      show Except.ok part = .ok w ↔ some part = some w
      simp
  | scalar s => cases s <;> exact nothing
  | _ => exact nothing

end QueryTemplates
