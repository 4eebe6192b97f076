import QueryTemplates.Fragment.Builder

/-!
# Combinators over values

A combinator joins or encloses fragments by operators or delimiters that may be values of any kind
and are written as text. Its fragments are the elements of a value, taken as one list or spread over
the arguments of a call.

Models `SPEC_FULL.md` §4.4 (lines 69–74) and §4.5 (lines 76–77).
-/

namespace QueryTemplates

/-- A joiner or an enclosure made of values. -/
inductive Combinator where
  | joiner (operator : Value)
  | enclosure (opening closing : Value)

/-- Why a combinator refuses a value. -/
inductive CombinatorError where
  | access (cause : AccessError)
  | argument (cause : ArgumentError)
  /-- The value cannot be spread over arguments. -/
  | notSpreadable (combinator : String) (got : Kind)

/-- The refusal in words. -/
def CombinatorError.message : CombinatorError → String
  | .access cause => cause.message
  | .argument cause => cause.message
  | .notSpreadable combinator got =>
    combinator ++ " argument after * must be an iterable, not " ++ got.longName

/-- The category of the refusal. -/
def CombinatorError.category : CombinatorError → Category
  | .access cause => cause.category
  | .argument cause => cause.category
  | .notSpreadable _ _ => .wrongType

namespace Combinator

/-- The combinator as an expression. -/
def literal : Combinator → String
  | .joiner operator => "Surrounded(operator=" ++ operator.literal ++ ")"
  | .enclosure opening closing =>
    "Surrounder(open=" ++ opening.literal ++ ", close=" ++ closing.literal ++ ")"

/-- The fragments joined or enclosed. -/
def combine (combinator : Combinator) (fragments : List Value) : Except CombinatorError String :=
  (match combinator with
    | .joiner operator => (Joiner.mk operator.text).join fragments
    | .enclosure opening closing =>
      (Enclosure.mk opening.text closing.text).join fragments).mapError .argument

/-- The elements of a value joined or enclosed. -/
def combineElements (combinator : Combinator) (v : Value) : Except CombinatorError String := do
  combinator.combine (← v.elements.mapError .access)

/-- The combinator called with the elements of a value as arguments. -/
def callWithElements (combinator : Combinator) (v : Value) : Except CombinatorError String := do
  combinator.combine (← v.elements.mapError fun _ => .notSpreadable combinator.literal v.kind)

end Combinator

end QueryTemplates
