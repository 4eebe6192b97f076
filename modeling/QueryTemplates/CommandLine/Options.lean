/-!
# Options of a command line

Words that begin with a dash are options; all others are arguments. The value of an option stands
behind an equals sign in the same word or is the next word, whatever that is. Two dashes end the
options.

Models `SPEC_FULL.md` §13 (lines 211–218).
-/

namespace QueryTemplates

/-- An option that a command knows. -/
structure OptionForm where
  name : String
  takesValue : Bool

/-- Why words do not fit the options of a command. -/
inductive OptionFault where
  | unknown (name : String)
  | needsValue (name : String)
  | takesNoValue (name : String)
deriving DecidableEq

/-- The options given, with their values, and the arguments, both in order. -/
structure ReadWords where
  options : List (String × String) := []
  arguments : List String := []

/-- The word is an option. -/
def isOptionWord (word : String) : Bool :=
  match word.toList with
  | '-' :: _ :: _ => true
  | _ => false

/-- The name in an option word, and the value behind an equals sign. -/
def splitOption (word : String) : String × Option String :=
  let name := word.toList.takeWhile (· != '=')
  match word.toList.dropWhile (· != '=') with
  | [] => (word, none)
  | _ :: value => (String.ofList name, some (String.ofList value))

/-- The name under which an unknown option word is refused: a word with one dash is a row of
letters, of which the first is refused. -/
def refusedName (word : String) : String :=
  match word.toList with
  | '-' :: '-' :: _ => (splitOption word).1
  | '-' :: c :: _ => String.ofList ['-', c]
  | _ => word

/-- Reads the words of a command. Unless options may stand behind arguments, the first argument
ends them. -/
def readWords (forms : List OptionForm) (mixed : Bool) : List String → Except OptionFault ReadWords
  | [] => .ok {}
  | word :: rest =>
    if word = "--" then .ok { arguments := rest }
    else if !isOptionWord word then
      if mixed then do
        let read ← readWords forms mixed rest
        return { read with arguments := word :: read.arguments }
      else .ok { arguments := word :: rest }
    else
      let (name, value) := splitOption word
      match forms.find? (·.name == name) with
      | none => .error (.unknown (refusedName word))
      | some form =>
        if form.takesValue then
          match value, rest with
          | some value, rest => do
            let read ← readWords forms mixed rest
            return { read with options := (name, value) :: read.options }
          | none, value :: rest => do
            let read ← readWords forms mixed rest
            return { read with options := (name, value) :: read.options }
          | none, [] => .error (.needsValue name)
        else if value.isSome then .error (.takesNoValue name)
        else do
          let read ← readWords forms mixed rest
          return { read with options := (name, "") :: read.options }

namespace ReadWords

/-- The values of an option in order. -/
def values (read : ReadWords) (name : String) : List String :=
  (read.options.filter (·.1 == name)).map (·.2)

/-- The last value of an option. -/
def last? (read : ReadWords) (name : String) : Option String := (read.values name).getLast?

/-- The option was given. -/
def has (read : ReadWords) (name : String) : Bool := read.options.any (·.1 == name)

end ReadWords

end QueryTemplates
