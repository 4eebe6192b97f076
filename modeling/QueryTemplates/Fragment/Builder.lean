import QueryTemplates.Fragment.Argument
import QueryTemplates.Fragment.Basic

/-!
# Builders

A builder makes a fragment from values of any kind: it checks them from the first to the last and
then writes the fragment. The first argument that is unfit is the one refused.

Models `SPEC_FULL.md` §4 (lines 50–101).
-/

namespace QueryTemplates

/-- A list of fragments is text throughout; a refusal names the place in the list. -/
def checkFragmentsFrom (index : Nat) : List Value → Except ArgumentError (List String)
  | [] => .ok []
  | v :: rest => do
    let s ← checkText ⟨"fragments[" ++ toString index ++ "]", none⟩ v
    return s :: (← checkFragmentsFrom (index + 1) rest)

/-- A list of fragments is text throughout. -/
def checkFragments (fragments : List Value) : Except ArgumentError (List String) :=
  checkFragmentsFrom 0 fragments

/-- The values joined by the operator. -/
def Joiner.join (joiner : Joiner) (fragments : List Value) : Except ArgumentError String :=
  return joiner.write (← checkFragments fragments)

/-- The values enclosed by the delimiters. -/
def Enclosure.join (enclosure : Enclosure) (fragments : List Value) :
    Except ArgumentError String :=
  return enclosure.write (← checkFragments fragments)

namespace Builder

/-- A bound above all finite numbers. -/
def unbounded : Value := .float (.infinite false)

/-- The words are text. `SPEC_FULL.md` §4.2 (line 64). -/
def term (words : Value) : Except ArgumentError String :=
  return Fragment.term (← checkText (.at "words" 1) words)

/-- Both the name and the query are text. `SPEC_FULL.md` §4.3 (line 67). -/
def field (name query : Value) : Except ArgumentError String := do
  let name ← checkText (.at "name" 1) name
  let query ← checkText (.at "query" 2) query
  return Fragment.field name query

/-- The flags may be any values; one that counts as true includes its bound. `SPEC_FULL.md` §4.6
(lines 80–82). -/
def range (start stop includeStart includeStop : Value) : Except ArgumentError String := do
  let start ← checkText (.at "start" 1) start
  let stop ← checkText (.at "end" 2) stop
  return Fragment.range start stop includeStart.truthy includeStop.truthy

/-- A similarity lies between 0 and 1; null leaves the mark bare. `SPEC_FULL.md` §4.7 (lines
86–87). -/
def fuzzy (query similarity : Value) : Except ArgumentError String := do
  let query ← checkText (.at "query" 1) query
  match similarity with
  | .null => return Fragment.fuzzy query none
  | similarity =>
    let n ← checkRange (.int 0) (.int 1) (.at "similarity" 2) similarity
    return Fragment.fuzzy query (some n)

/-- A distance is not negative. `SPEC_FULL.md` §4.8 (lines 90–91). -/
def proximity (first second distance : Value) : Except ArgumentError String := do
  let first ← checkText (.at "first" 1) first
  let second ← checkText (.at "second" 2) second
  let n ← checkRange (.int 0) unbounded (.at "distance" 3) distance
  return Fragment.proximity first second n

/-- A factor is at least 1. `SPEC_FULL.md` §4.9 (line 94). -/
def boost (query factor : Value) : Except ArgumentError String := do
  let query ← checkText (.at "query" 1) query
  let n ← checkRange (.int 1) unbounded (.at "factor" 2) factor
  return Fragment.boost query n

/-- The query is text. `SPEC_FULL.md` §4.10 (line 97). -/
def required (query : Value) : Except ArgumentError String :=
  return Fragment.required (← checkText (.at "query" 1) query)

@[simp] theorem term_str (words : String) : term (.str words) = .ok (Fragment.term words) := rfl

@[simp] theorem field_str (name query : String) :
    field (.str name) (.str query) = .ok (Fragment.field name query) := rfl

@[simp] theorem range_str (start stop : String) (includeStart includeStop : Bool) :
    range (.str start) (.str stop) (.bool includeStart) (.bool includeStop)
      = .ok (Fragment.range start stop includeStart includeStop) := rfl

@[simp] theorem fuzzy_null (query : String) :
    fuzzy (.str query) .null = .ok (Fragment.fuzzy query none) := rfl

/-- A similarity that is given is checked. -/
theorem fuzzy_of_ne_null (query : String) {similarity : Value} (h : similarity ≠ .null) :
    fuzzy (.str query) similarity = (do
      let n ← checkRange (.int 0) (.int 1) (.at "similarity" 2) similarity
      return Fragment.fuzzy query (some n)) := by
  simp only [fuzzy, checkText_str, bind, Except.bind]

/-- Of two words that are texts only the distance is still checked. -/
theorem proximity_str (first second : String) (distance : Value) :
    proximity (.str first) (.str second) distance = (do
      let n ← checkRange (.int 0) unbounded (.at "distance" 3) distance
      return Fragment.proximity first second n) := by
  simp only [proximity, checkText_str, bind, Except.bind]

/-- Of a query that is a text only the factor is still checked. -/
theorem boost_str (query : String) (factor : Value) :
    boost (.str query) factor = (do
      let n ← checkRange (.int 1) unbounded (.at "factor" 2) factor
      return Fragment.boost query n) := by
  simp only [boost, checkText_str, bind, Except.bind]

@[simp] theorem required_str (query : String) :
    required (.str query) = .ok (Fragment.required query) := rfl

end Builder

end QueryTemplates
