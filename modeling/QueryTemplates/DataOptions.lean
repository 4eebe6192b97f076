import QueryTemplates.Text.Blank
import QueryTemplates.Text.Quoted
import QueryTemplates.Value.Merge

/-!
# Data given as options

An option `KEY=VALUE` gives one text to the template data. The points in a key separate the parts
of a path through nested mappings. Later options are laid over earlier ones.

Models the option `--data` of `SPEC_FULL.md` §13 (lines 213–215).
-/

namespace QueryTemplates

/-- An option without an equals sign or without a key. -/
structure OptionError where
  option : String
deriving DecidableEq

/-- The refusal in words. -/
def OptionError.message (e : OptionError) : String := "expected KEY=VALUE, got " ++ quoted e.option

/-- A text at a path. -/
structure Assignment where
  path : List String
  value : String
deriving DecidableEq

/-- The parts of a text between the characters equal to `separator`. -/
def splitAtChar (separator : Char) : List Char → List (List Char)
  | [] => [[]]
  | c :: rest =>
    if c = separator then [] :: splitAtChar separator rest
    else match splitAtChar separator rest with
      | [] => [[c]]
      | part :: parts => (c :: part) :: parts

namespace Assignment

/-- The parts of a key that are not empty. -/
def pathOf (key : List Char) : List String :=
  ((splitAtChar '.' (stripBlank key)).filter (!·.isEmpty)).map String.ofList

/-- Reads an option. The first equals sign ends the key. -/
def parse (option : String) : Except OptionError Assignment :=
  let key := option.toList.takeWhile (· != '=')
  match option.toList.dropWhile (· != '=') with
  | [] => .error ⟨option⟩
  | _ :: value =>
    match pathOf key with
    | [] => .error ⟨option⟩
    | path => .ok ⟨path, String.ofList value⟩

/-- The value at the end of a path of mappings. -/
def nest (value : Value) : List String → Value
  | [] => value
  | part :: rest => .map [(.str part, nest value rest)]

/-- The mapping that holds nothing but the text at its path. -/
def toMapping (assignment : Assignment) : Mapping :=
  match nest (.str assignment.value) assignment.path with
  | .map entries => entries
  | _ => []

end Assignment

/-- The data that options give, from the first to the last. -/
def dataOfOptions (options : List String) : Except OptionError Mapping :=
  options.foldlM (fun data option => do
    return Mapping.merge data (← Assignment.parse option).toMapping) []

/-- Even an empty text has one part. -/
theorem splitAtChar_ne_nil (separator : Char) (cs : List Char) :
    splitAtChar separator cs ≠ [] := by
  cases cs with
  | nil => simp [splitAtChar]
  | cons c rest =>
    simp only [splitAtChar]
    split
    · simp
    · split <;> simp

end QueryTemplates
