/-!
# Places in a configuration

Every part of a configuration has a place: a root and the steps that lead to the part. A refusal
names the place of the part it refuses.

Models the places in the messages of `SPEC_FULL.md` §10.2 (lines 159–163).
-/

namespace QueryTemplates

/-- A step from a value to one of its parts. -/
inductive Step where
  /-- The value at a key of a mapping. -/
  | key (name : String)
  /-- An item of a list, counted from zero. -/
  | index (number : Nat)
deriving DecidableEq

/-- A root and the steps that lead from it, the first one first. -/
structure Place where
  root : String
  steps : List Step := []
deriving DecidableEq

/-- A key stands behind a point, a number in square brackets. -/
def Step.text : Step → String
  | .key name => "." ++ name
  | .index number => "[" ++ toString number ++ "]"

namespace Place

/-- The root and the steps one after the other. -/
def text (place : Place) : String := place.root ++ String.join (place.steps.map Step.text)

/-- The place one step further. -/
def push (place : Place) (step : Step) : Place := ⟨place.root, place.steps ++ [step]⟩

/-- The place of the value at a key. -/
def key (place : Place) (name : String) : Place := place.push (.key name)

/-- The place of an item. -/
def index (place : Place) (number : Nat) : Place := place.push (.index number)

/-- A place without steps is its root. -/
@[simp] theorem text_root (root : String) : text ⟨root, []⟩ = root := by
  simp [text, String.join]

end Place

end QueryTemplates
