import QueryTemplates.Call.Function

/-!
# Expressions over template data

A parameterised query is an expression: a value, a part of the data, or a call whose arguments are
expressions. Arguments are evaluated from left to right, and the first failure is the outcome.

Models `SPEC_FULL.md` §4.11 (lines 99–101).
-/

namespace QueryTemplates

/-- An expression over template data. -/
inductive Expression where
  | value (v : Value)
  | part (key : Value)
  | call (function : NamedFunction) (arguments : List Expression)

/-- Why an expression has no value. -/
inductive EvaluationError where
  | access (cause : AccessError)
  | apply (cause : ApplyError)

/-- The failure in words. -/
def EvaluationError.message : EvaluationError → String
  | .access cause => cause.message
  | .apply cause => cause.message

/-- The category of the failure. -/
def EvaluationError.category : EvaluationError → Category
  | .access cause => cause.category
  | .apply cause => cause.category

namespace Expression

mutual

/-- The value of an expression over some data. -/
def evaluate (data : Value) : Expression → Except EvaluationError Value
  | .value v => .ok v
  | .part key => (data.item key).mapError .access
  | .call function arguments => do
    let values ← evaluateAll data arguments
    (function.apply values []).mapError .apply

/-- The values of expressions from left to right. -/
def evaluateAll (data : Value) : List Expression → Except EvaluationError (List Value)
  | [] => .ok []
  | e :: rest => do return (← evaluate data e) :: (← evaluateAll data rest)

end

end Expression

end QueryTemplates
