/-!
# Terminal styles

A control sequence of a terminal is an escape character and a bracket, parameters, marks in between,
and one character that ends it. Text that does not go to a terminal is written without such
sequences.
-/

namespace QueryTemplates

/-- The character lies between two others, both included. -/
def isBetween (first last c : Char) : Bool := first ≤ c && c ≤ last

/-- What follows a control sequence, the cursor being behind its bracket: parameters run from `0`
to `?`, marks from a blank to `/`, and the end is one character from `@` to `~`. -/
def behindStyle? (cs : List Char) : Option (List Char) :=
  match (cs.dropWhile (isBetween '0' '?')).dropWhile (isBetween ' ' '/') with
  | c :: rest => if isBetween '@' '~' c then some rest else none
  | [] => none

theorem length_behindStyle? {cs rest : List Char} (h : behindStyle? cs = some rest) :
    rest.length < cs.length := by
  unfold behindStyle? at h
  have hle : ((cs.dropWhile (isBetween '0' '?')).dropWhile (isBetween ' ' '/')).length
      ≤ cs.length :=
    Nat.le_trans (List.dropWhile_sublist _).length_le (List.dropWhile_sublist _).length_le
  split at h
  · next c tail heq =>
    split at h
    · cases h
      rw [heq] at hle
      simp only [List.length_cons] at hle
      omega
    · cases h
  · cases h

/-- The characters without control sequences. -/
def dropStyles (cs : List Char) : List Char :=
  match cs with
  | [] => []
  | [c] => [c]
  | c :: d :: rest =>
    if c = '\x1b' ∧ d = '[' then
      match _found : behindStyle? rest with
      | some behind => dropStyles behind
      | none => c :: dropStyles (d :: rest)
    else c :: dropStyles (d :: rest)
termination_by cs.length
decreasing_by
  · have := length_behindStyle? _found
    simp only [List.length_cons]
    omega
  · simp
  · simp

/-- Characters without an escape character begin no control sequence. -/
theorem dropStyles_of_notMem {cs : List Char} (h : '\x1b' ∉ cs) : dropStyles cs = cs := by
  induction cs with
  | nil => rw [dropStyles]
  | cons c rest ih =>
    rw [List.mem_cons, not_or] at h
    cases rest with
    | nil => rw [dropStyles]
    | cons d rest => rw [dropStyles, if_neg fun hfront => h.1 hfront.1.symm, ih h.2]

/-- The text without control sequences. -/
def unstyled (s : String) : String := String.ofList (dropStyles s.toList)

/-- Text without an escape character is written as it is. -/
theorem unstyled_of_notMem {s : String} (h : '\x1b' ∉ s.toList) : unstyled s = s := by
  rw [unstyled, dropStyles_of_notMem h, String.ofList_toList]

end QueryTemplates
