import QueryTemplates.Value.Basic

/-!
# Calls with positional and named arguments

A signature lists the parameters of a function, some with a default, some to be given by name
only. Binding a call gives each parameter one value. Named arguments are matched first, in the
order in which they are given; then superfluous positional arguments are refused, and last
parameters that got no value.

Models the arities of `SPEC_FULL.md` §6 (lines 106–123).
-/

namespace QueryTemplates

/-- A parameter of a function. -/
structure Parameter where
  name : String
  default : Option Value := none

/-- The parameters of a function; `function` is what messages call it. -/
structure Signature where
  function : String
  positional : List Parameter
  namedOnly : List Parameter := []

/-- Why a call does not fit a signature. -/
inductive CallError where
  | unexpectedName (function name : String)
  | repeatedName (function name : String)
  | tooMany (signature : Signature) (given namedOnlyGiven : Nat)
  | missing (function : String) (namedOnly : Bool) (names : List String)

/-- Quoted names with commas between them and "and" before the last. -/
def listNames (names : List String) : String :=
  let inQuotes := names.map fun name => "'" ++ name ++ "'"
  match inQuotes.reverse with
  | [] => ""
  | [only] => only
  | [last, first] => first ++ " and " ++ last
  | last :: before => ", ".intercalate before.reverse ++ ", and " ++ last

/-- The ending of a noun that is counted. -/
private def plural (count : Nat) : String := if count = 1 then "" else "s"

/-- The refusal in words. -/
def CallError.message : CallError → String
  | .unexpectedName function name =>
    function ++ "() got an unexpected keyword argument '" ++ name ++ "'"
  | .repeatedName function name =>
    function ++ "() got multiple values for argument '" ++ name ++ "'"
  | .tooMany signature given namedOnlyGiven =>
    let most := signature.positional.length
    let least := (signature.positional.filter (·.default.isNone)).length
    let takes := if least = most then toString most ++ " positional argument" ++ plural most
      else "from " ++ toString least ++ " to " ++ toString most ++ " positional arguments"
    let counted := if namedOnlyGiven = 0 then toString given
      else toString given ++ " positional argument" ++ plural given ++ " (and "
        ++ toString namedOnlyGiven ++ " keyword-only argument" ++ plural namedOnlyGiven ++ ")"
    signature.function ++ "() takes " ++ takes ++ " but " ++ counted
      ++ (if given = 1 ∧ namedOnlyGiven = 0 then " was" else " were") ++ " given"
  | .missing function namedOnly names =>
    function ++ "() missing " ++ toString names.length ++ " required "
      ++ (if namedOnly then "keyword-only" else "positional") ++ " argument" ++ plural names.length
      ++ ": " ++ listNames names

namespace Signature

/-- The parameters with the values that positional arguments give them. -/
def assign : List Parameter → List Value → List (Parameter × Option Value)
  | [], _ => []
  | p :: rest, [] => (p, none) :: assign rest []
  | p :: rest, v :: values => (p, some v) :: assign rest values

/-- Gives a named argument to its parameter. -/
def assignNamed (function name : String) (value : Value) :
    List (Parameter × Option Value) → Except CallError (List (Parameter × Option Value))
  | [] => .error (.unexpectedName function name)
  | (p, given) :: rest =>
    if p.name == name then
      match given with
      | some _ => .error (.repeatedName function name)
      | none => .ok ((p, some value) :: rest)
    else do return (p, given) :: (← assignNamed function name value rest)

/-- The names of parameters that have neither a value nor a default. -/
def missingNames (slots : List (Parameter × Option Value)) : List String :=
  (slots.filter fun (p, given) => given.isNone && p.default.isNone).map (·.1.name)

/-- One value for each parameter, those to be given by name behind the others. -/
def bind (signature : Signature) (positional : List Value) (named : List (String × Value)) :
    Except CallError (List Value) := do
  let slots := assign signature.positional positional ++ signature.namedOnly.map (·, none)
  let slots ← named.foldlM (fun slots (name, value) =>
    assignNamed signature.function name value slots) slots
  let count := signature.positional.length
  if count < positional.length then
    throw (.tooMany signature positional.length
      ((slots.drop count).filter (·.2.isSome)).length)
  let missing := missingNames (slots.take count)
  if !missing.isEmpty then throw (.missing signature.function false missing)
  let missing := missingNames (slots.drop count)
  if !missing.isEmpty then throw (.missing signature.function true missing)
  return slots.map fun (p, given) => (given <|> p.default).getD .null

/-- A function that takes any number of positional arguments takes no named ones; `receiver` is
what its own object is called. -/
def bindAny (function receiver : String) (named : List (String × Value)) : Except CallError Unit :=
  match named with
  | [] => .ok ()
  | (name, _) :: _ =>
    if name == receiver then .error (.repeatedName function name)
    else .error (.unexpectedName function name)

end Signature

end QueryTemplates
