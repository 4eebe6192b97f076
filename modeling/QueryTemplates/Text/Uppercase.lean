/-!
# Upper case

Names of levels and operators are made of ASCII letters and are recognised in any case. The map
here is the full upper-case map of Unicode 14 as far as it leads to ASCII: ten characters outside
ASCII have ASCII capitals, some of them two or three. A character whose capitals are not all in
ASCII keeps its place unchanged, so the result equals an ASCII name exactly when the full map's
result does.
-/

namespace QueryTemplates

/-- The capitals of a character. -/
def capitals (c : Char) : List Char :=
  match c with
  | 'ß' => ['S', 'S']
  | 'ı' => ['I']
  | 'ſ' => ['S']
  | 'ﬀ' => ['F', 'F']
  | 'ﬁ' => ['F', 'I']
  | 'ﬂ' => ['F', 'L']
  | 'ﬃ' => ['F', 'F', 'I']
  | 'ﬄ' => ['F', 'F', 'L']
  | 'ﬅ' => ['S', 'T']
  | 'ﬆ' => ['S', 'T']
  | c => [c.toUpper]

/-- The text in capitals. -/
def upperCase (s : String) : String := String.ofList (s.toList.flatMap capitals)

@[simp] theorem upperCase_empty : upperCase "" = "" := rfl

end QueryTemplates
