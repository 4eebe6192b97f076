import QueryTemplates.Reading.Place
import QueryTemplates.Value.Access

/-!
# Shapes of values in a configuration

A part of a configuration is to be text, a truth value, a number, a list or a mapping. A part of
another shape is refused under its place, and so are keys that have no meaning where they stand and
keys that are wanted but absent.

Models the readers of `SPEC_FULL.md` §10.3 (lines 165–178).
-/

namespace QueryTemplates

/-- The shape a part is to have. -/
inductive Shape where
  | mapping
  | list
  | text
  | bool
  | number
deriving DecidableEq

/-- The shape behind its article. -/
def Shape.described : Shape → String
  | .mapping => "an object"
  | .list => "a list"
  | .text => "a string"
  | .bool => "a boolean"
  | .number => "a number"

/-- Why a part of a configuration is refused. -/
inductive ReadError where
  /-- The part has another shape. -/
  | shape (place : Place) (wanted : Shape)
  /-- The key that the place ends in is absent. -/
  | missing (place : Place)
  /-- The mapping is to have one key of a set. -/
  | noSoleKey (place : Place) (choices : List String)
  /-- The mapping has keys without a meaning, given in increasing order; `owner` is the key whose
  companions they are not. -/
  | unknownKeys (place : Place) (owner : Option String) (keys : List Scalar)
  /-- A step to a part or a comparison of keys is not possible. -/
  | access (cause : AccessError)
  /-- A key that would have to be shown is an integer with too many digits. -/
  | longInteger
  /-- The part is a loop that is to be read to its end. -/
  | endless

/-- Texts as the literal of a list. -/
def listLiteral (texts : List String) : String := (Value.list (texts.map .str)).literal

/-- The refusal in words. -/
def ReadError.message : ReadError → String
  | .shape place wanted => place.text ++ " must be " ++ wanted.described
  | .missing place => "Missing required config: " ++ place.text
  | .noSoleKey place choices =>
    place.text ++ " must have exactly one of " ++ listLiteral choices
  | .unknownKeys place owner keys =>
    place.text ++ " has unknown keys"
      ++ (match owner with
        | some name => " for " ++ name
        | none => "")
      ++ ": " ++ (Value.list (keys.map .scalar)).literal
  | .access cause => cause.message
  | .longInteger => digitLimitMessage none
  | .endless => recursionMessage inComparison

/-- The category of the refusal. -/
def ReadError.category : ReadError → Category
  | .shape _ _ => .wrongType
  | .missing _ | .noSoleKey _ _ | .unknownKeys _ _ _ | .longInteger => .badValue
  | .access cause => cause.category
  | .endless => .recursion

/-- The part is a mapping. -/
def expectMapping (place : Place) (v : Value) : Except ReadError Mapping :=
  match v.bare with
  | .map entries => .ok entries
  | _ => .error (.shape place .mapping)

/-- The part is a list. -/
def expectList (place : Place) (v : Value) : Except ReadError (List Value) :=
  match v.bare with
  | .list items => .ok items
  | _ => .error (.shape place .list)

/-- The part is text. -/
def expectText (place : Place) : Value → Except ReadError String
  | .str s => .ok s
  | _ => .error (.shape place .text)

/-- The part is a truth value. -/
def expectBool (place : Place) : Value → Except ReadError Bool
  | .bool b => .ok b
  | _ => .error (.shape place .bool)

/-- The part is a number; truth values are none. -/
def expectNumber (place : Place) (v : Value) : Except ReadError Number :=
  match v.number? with
  | some n => .ok n
  | none => .error (.shape place .number)

/-- The value at a key that must be present; `place` is its place. -/
def requireKey (entries : Mapping) (name : String) (place : Place) : Except ReadError Value :=
  match Mapping.get? entries (.str name) with
  | some v => .ok v
  | none => .error (.missing place)

/-- The value at a key of a configuration; a key that is absent and one that is null are the
same. -/
def section? (raw key : Value) : Except ReadError (Option Value) := do
  let entries ← (raw.entriesFor "get").mapError .access
  match ← (Value.entryAt? entries key).mapError .access with
  | none | some .null => return none
  | some v => return some v

/-- A section of a configuration is a mapping. Without one it is empty, unless it is required. -/
def readSection (raw key : Value) (required : Bool) : Except ReadError Mapping := do
  match ← section? raw key with
  | none => if required then throw (.missing ⟨key.text, []⟩) else return []
  | some v => expectMapping ⟨key.text, []⟩ v

/-- The key is none of the allowed ones. -/
def isUnknown (allowed : List String) : Scalar → Bool
  | .str name => !allowed.contains name
  | _ => true

/-- The mapping has no keys but the allowed ones. -/
def checkKeys (place : Place) (owner : Option String) (allowed : List String) (entries : Mapping) :
    Except ReadError Unit := do
  let unknown := (Mapping.keys entries).filter (isUnknown allowed)
  if unknown.isEmpty then return
  let sorted ← (sortScalars unknown).mapError .access
  if sorted.any Scalar.isLongInteger then throw .longInteger
  throw (.unknownKeys place owner sorted)

theorem expectText_eq_ok_iff {place : Place} {v : Value} {s : String} :
    expectText place v = .ok s ↔ v = .str s := by
  cases v with
  | scalar t => cases t <;> simp [expectText]
  | _ => simp [expectText]

/-- Only truth values are read as such; numbers do not count. -/
theorem expectBool_eq_ok_iff {place : Place} {v : Value} {b : Bool} :
    expectBool place v = .ok b ↔ v = .bool b := by
  cases v with
  | scalar t => cases t <;> simp [expectBool]
  | _ => simp [expectBool]

/-- Mappings are read, also those that hold themselves. -/
theorem expectMapping_eq_ok_iff {place : Place} {v : Value} {m : Mapping} :
    expectMapping place v = .ok m ↔ v.bare = .map m := by
  unfold expectMapping
  split <;> simp_all

/-- Lists are read, also those that hold themselves. -/
theorem expectList_eq_ok_iff {place : Place} {v : Value} {items : List Value} :
    expectList place v = .ok items ↔ v.bare = .list items := by
  unfold expectList
  split <;> simp_all

/-- Only numbers are read as numbers; truth values do not count. -/
theorem expectNumber_eq_ok_iff {place : Place} {v : Value} {n : Number} :
    expectNumber place v = .ok n ↔ v = .ofNumber n := by
  rw [expectNumber, ← Value.number?_eq_some_iff]
  cases v.number? <;> simp

end QueryTemplates
