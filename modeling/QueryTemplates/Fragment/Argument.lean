import QueryTemplates.Value.Access

/-!
# Checked arguments

Every builder checks its arguments before it formats anything. An argument is named in messages by
its name and, where it has one, its position. The checks are: it is text, it is a number within
bounds, it is a function.

Models `SPEC_FULL.md` §4.1 (lines 52–61).
-/

namespace QueryTemplates

/-- How messages name an argument. -/
structure Argument where
  name : String
  position : Option String := none

/-- The name, and the position in brackets. -/
def Argument.described (argument : Argument) : String :=
  match argument.position with
  | none => argument.name
  | some position => argument.name ++ " (argument " ++ position ++ ")"

/-- An argument at a place counted from one. -/
def Argument.at (name : String) (position : Nat) : Argument := ⟨name, some (toString position)⟩

/-- Why an argument is refused. -/
inductive ArgumentError where
  | notText (argument : Argument) (got : Kind)
  | notNumber (argument : Argument) (got : Kind)
  | notFunction (argument : Argument) (got : Kind)
  | nan (argument : Argument)
  /-- The integer is beyond the finite binary numbers. -/
  | unrepresentable
  /-- The number is larger in magnitude than `greatestSafe`. -/
  | unsafeMagnitude (argument : Argument) (value : Number)
  | outside (argument : Argument) (least most : Value) (value : Number)
  /-- A bound has no order with numbers. -/
  | bound (cause : AccessError)

/-- The greatest integer up to which the integers have distinct binary numbers. `SPEC_FULL.md` §3
(lines 40–41). -/
def greatestSafe : Nat := powerOfTwo 53 - 1

/-- The refusal in words. -/
def ArgumentError.message : ArgumentError → String
  | .notText argument got => argument.described ++ " must be a string, got " ++ got.name
  | .notNumber argument got => argument.described ++ " must be a number, got " ++ got.name
  | .notFunction argument got => argument.described ++ " must be a function, got " ++ got.name
  | .nan argument => argument.described ++ " must be a number, got NaN"
  | .unrepresentable => "int too large to convert to float"
  | .unsafeMagnitude argument value =>
    argument.described ++ " must not exceed " ++ toString greatestSafe ++ " in magnitude. It was "
      ++ value.text
  | .outside argument least most value =>
    if least.hasLongInteger || most.hasLongInteger then digitLimitMessage none
    else
      argument.described ++ " must be between " ++ least.text ++ " and " ++ most.text ++ ". It was "
        ++ value.text
  | .bound cause => cause.message

/-- The category of a refusal. -/
def ArgumentError.category : ArgumentError → Category
  | .notText _ _ | .notNumber _ _ | .notFunction _ _ => .wrongType
  | .nan _ | .unsafeMagnitude _ _ | .outside _ _ _ _ => .badValue
  | .unrepresentable => .overflow
  | .bound cause => cause.category

/-- The argument is text. `SPEC_FULL.md` §4.1 (lines 53–54). -/
def checkText (argument : Argument) : Value → Except ArgumentError String
  | .str s => .ok s
  | v => .error (.notText argument v.kind)

/-- The argument is a function. `SPEC_FULL.md` §4.1 (line 59). -/
def checkFunction (argument : Argument) : Value → Except ArgumentError Unit
  | .function => .ok ()
  | v => .error (.notFunction argument v.kind)

/-- The number has a magnitude up to `greatestSafe`. -/
def Number.isSafe (n : Number) : Bool :=
  (Number.int (-greatestSafe)).le n && n.le (.int greatestSafe)

/-- The number is not NaN; an integer must have a binary number near it to be asked. -/
def checkNotNaN (argument : Argument) : Number → Except ArgumentError Unit
  | .int n => if (Binary64.ofInt? n).isSome then .ok () else .error .unrepresentable
  | .float (.nan _) => .error (.nan argument)
  | .float _ => .ok ()

/-- `a ≤ b` for a bound and a number or a number and a bound; truth values count as numbers. -/
def boundLe (a b : Value) : Except ArgumentError Bool :=
  match a, b with
  | .scalar s, .scalar t =>
    match s.number?, t.number? with
    | some x, some y => .ok (x.le y)
    | _, _ => .error (.bound (.notComparable "<=" a.kind b.kind))
  | a, b => .error (.bound (.notComparable "<=" a.kind b.kind))

/-- The argument is a number from `least` to `most`. `SPEC_FULL.md` §4.1 (lines 55–58). -/
def checkRange (least most : Value) (argument : Argument) (value : Value) :
    Except ArgumentError Number :=
  match value.number? with
  | none => .error (.notNumber argument value.kind)
  | some n => do
    checkNotNaN argument n
    if !n.isSafe then throw (.unsafeMagnitude argument n)
    if !(← boundLe least value) then throw (.outside argument least most n)
    if !(← boundLe value most) then throw (.outside argument least most n)
    return n

@[simp] theorem checkText_str (argument : Argument) (s : String) :
    checkText argument (.str s) = .ok s := rfl

/-- Only texts pass, and they pass as they are. -/
theorem checkText_eq_ok_iff {argument : Argument} {v : Value} {s : String} :
    checkText argument v = .ok s ↔ v = .str s := by
  cases v with
  | scalar t => cases t <;> simp [checkText]
  | _ => simp [checkText]

end QueryTemplates
