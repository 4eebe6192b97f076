import Mathlib.Data.List.DropRight
import Mathlib.Data.List.TakeWhile
import QueryTemplates.Text.Blank

/-!
# Text without blanks at its ends

Stripping takes all blanks off the two ends of a text. It leaves nothing of a text of blanks only,
and it leaves a text as it is that was stripped before.
-/

namespace QueryTemplates

variable {cs : List Char}

theorem stripBlank_eq_rdropWhile (cs : List Char) :
    stripBlank cs = (cs.dropWhile isBlank).rdropWhile isBlank := rfl

/-- A text without blanks is left as it is. -/
theorem stripBlank_of_no_blank (h : ∀ c ∈ cs, isBlank c = false) : stripBlank cs = cs := by
  have hkept {cs : List Char} (h : ∀ c ∈ cs, isBlank c = false) : cs.dropWhile isBlank = cs := by
    rw [List.dropWhile_eq_self_iff]
    intro hlength
    rw [h _ (List.getElem_mem hlength)]
    exact Bool.false_ne_true
  rw [stripBlank, hkept h, hkept fun c hc => h c (List.mem_reverse.mp hc), List.reverse_reverse]

/-- Nothing is left exactly of blanks. -/
theorem stripBlank_eq_nil_iff : stripBlank cs = [] ↔ ∀ c ∈ cs, isBlank c = true := by
  rw [stripBlank_eq_rdropWhile, List.rdropWhile_eq_nil_iff]
  constructor
  · intro h
    have hnil : (cs.dropWhile isBlank).dropWhile isBlank = [] := List.dropWhile_eq_nil_iff.mpr h
    rw [List.dropWhile_idempotent] at hnil
    exact List.dropWhile_eq_nil_iff.mp hnil
  · intro h c hc
    exact h c ((List.dropWhile_sublist _).subset hc)

/-- A stripped text has no blank in front. -/
theorem dropWhile_stripBlank (cs : List Char) :
    (stripBlank cs).dropWhile isBlank = stripBlank cs := by
  have hfront : stripBlank cs <+: cs.dropWhile isBlank :=
    List.rdropWhile_prefix isBlank (cs.dropWhile isBlank)
  rw [List.dropWhile_eq_self_iff]
  intro hpos hblank
  have hlonger : 0 < (cs.dropWhile isBlank).length := Nat.lt_of_lt_of_le hpos hfront.length_le
  have hfirst := List.dropWhile_get_zero_not isBlank cs hlonger
  rw [hfront.getElem hpos] at hblank
  exact hfirst hblank

/-- Stripped text has no blanks to strip. -/
theorem stripBlank_stripBlank (cs : List Char) : stripBlank (stripBlank cs) = stripBlank cs := by
  rw [stripBlank_eq_rdropWhile (stripBlank cs), dropWhile_stripBlank, stripBlank_eq_rdropWhile,
    List.rdropWhile_idempotent]

end QueryTemplates
