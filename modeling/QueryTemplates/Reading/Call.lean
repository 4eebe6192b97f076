import QueryTemplates.Call.Signature
import QueryTemplates.Reading.Shape

/-!
# Readers by name

The readers of configuration parts can be called by name with any arguments. Keys and places may
be values of any kind and are shown as text.

Models the readers of `SPEC_FULL.md` §10.3 (lines 165–178).
-/

namespace QueryTemplates

/-- The readers that can be called by name. -/
inductive Reader where
  | section
  | required
  | mapping
  | list
  | text
  | bool
  | number

/-- Why a call of a reader fails. -/
inductive ReaderError where
  | call (cause : CallError)
  | read (cause : ReadError)

/-- The failure in words. -/
def ReaderError.message : ReaderError → String
  | .call cause => cause.message
  | .read cause => cause.message

/-- The category of the failure. -/
def ReaderError.category : ReaderError → Category
  | .call _ => .wrongType
  | .read cause => cause.category

/-- The value of a key that must be present in a container of any kind. -/
def requireMember (container key : Value) (place : Place) : Except ReadError Value := do
  if !(← (container.holds key).mapError .access) then throw (.missing place)
  (container.item key).mapError .access

namespace Reader

/-- The signature of a reader. -/
def signature : Reader → Signature
  | .section =>
    { function := "get_section"
      positional := [⟨"raw", none⟩, ⟨"key", none⟩]
      namedOnly := [⟨"required", none⟩] }
  | .required =>
    { function := "get_required_value"
      positional := [⟨"section", none⟩, ⟨"field", none⟩, ⟨"config_key", none⟩] }
  | .mapping => checker "expect_mapping"
  | .list => checker "expect_list"
  | .text => checker "expect_str"
  | .bool => checker "expect_bool"
  | .number => checker "expect_number"
where
  /-- A reader that looks at one value. -/
  checker (function : String) : Signature :=
    { function, positional := [⟨"value", none⟩, ⟨"config_key", none⟩] }

/-- The reader applied to one value per parameter. -/
def applyBound (reader : Reader) (values : List Value) : Except ReadError Value :=
  match reader, values with
  | .section, [raw, key, needed] => .map <$> readSection raw key needed.truthy
  | .required, [container, key, place] => requireMember container key ⟨place.text, []⟩
  | .mapping, [v, place] => .map <$> expectMapping ⟨place.text, []⟩ v
  | .list, [v, place] => .list <$> expectList ⟨place.text, []⟩ v
  | .text, [v, place] => .str <$> expectText ⟨place.text, []⟩ v
  | .bool, [v, place] => .bool <$> expectBool ⟨place.text, []⟩ v
  | .number, [v, place] => .ofNumber <$> expectNumber ⟨place.text, []⟩ v
  | _, _ => .ok .null

/-- The reader called with positional and named arguments. -/
def apply (reader : Reader) (positional : List Value) (named : List (String × Value)) :
    Except ReaderError Value := do
  let values ← (reader.signature.bind positional named).mapError .call
  (reader.applyBound values).mapError .read

end Reader

end QueryTemplates
