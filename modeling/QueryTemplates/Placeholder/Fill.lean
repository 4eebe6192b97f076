import QueryTemplates.Placeholder.Field
import QueryTemplates.Placeholder.Format

/-!
# Filling placeholders

A template text is filled from data segment by segment: the value a placeholder names is looked up,
converted, and laid out. The specification of a placeholder may hold placeholders itself, which are
filled first; those may not nest further. What is inserted is never read again.

Models `SPEC_FULL.md` §11 (lines 202–203).
-/

namespace QueryTemplates

/-- Why a placeholder cannot be filled. -/
inductive FillError where
  | access (cause : AccessError)
  | brace (cause : BraceError)
  | name (cause : NameError)
  | format (cause : FormatError)
  | conversion (code : Char)
  | tooDeep

/-- The cause in words. -/
def FillError.message : FillError → String
  | .access cause => cause.message
  | .brace cause => cause.message
  | .name cause => cause.message
  | .format cause => cause.message
  | .conversion code =>
    "Unknown conversion specifier "
      ++ (if 32 < code.toNat ∧ code.toNat < 127 then String.singleton code
        else "\\x" ++ String.ofList (Nat.toDigits 16 code.toNat))
  | .tooDeep => "Max string recursion exceeded"

/-- The category of a failed layout. -/
def FormatError.category : FormatError → Category
  | .noCharacter => .overflow
  | .integerTooLarge => .overflow
  | .unrepresentable => .overflow
  | .unsupported _ | .unsupportedObject _ => .wrongType
  | _ => .badValue

/-- The category of a placeholder that cannot be filled. -/
def FillError.category : FillError → Category
  | .access cause => cause.category
  | .format cause => cause.category
  | _ => .badValue

/-- One step from what was found. -/
def Access.follow [Objects] (found : Reached) : Access → Except FillError Reached
  | .attribute name => (Objects.attributeOf found name).mapError .access
  | .key name => (found.item (.str name)).mapError .access
  | .index place => (found.item (.int place)).mapError .access
  | .malformed cause => .error (.name cause)

/-- What a name stands for. -/
def FieldName.lookUp [Objects] (name : FieldName) (data : Value) : Except FillError Reached := do
  let first ← (data.item (.str name.first)).mapError .access
  name.steps.foldlM Access.follow (.value first)

/-- What was found as a conversion shows it; the character zero stands for none. -/
def convert [Objects] (found : Reached) : Option Char → Except FillError Reached
  | none | some '\x00' => .ok found
  | some 'r' => (found.shownLiteral.map fun s => .value (.str s)).mapError .format
  | some 's' => (found.shownText.map fun s => .value (.str s)).mapError .format
  | some 'a' => (found.shownLiteral.map fun s => .value (.str (asciiEscaped s))).mapError .format
  | some code => .error (.conversion code)

mutual

/-- The text of segments filled from data; specifications may nest `depth` levels. -/
def fillSegments [Objects] (depth : Nat) (data : Value) : List Segment → Except FillError String
  | [] => .ok ""
  | .literal text :: rest => do return String.ofList text ++ (← fillSegments depth data rest)
  | .field field :: rest => do
    let v ← fillField depth data field
    return v ++ (← fillSegments depth data rest)
  | .malformed cause :: _ => .error (.brace cause)
termination_by segments => (depth, 1, segments.length)

/-- The text of one placeholder. -/
def fillField [Objects] (depth : Nat) (data : Value) (field : Field) : Except FillError String := do
  let name ← (readFieldName field.name).mapError .name
  let found ← convert (← name.lookUp data) field.conversion
  let spec ←
    if field.nested then
      match depth with
      | 0 => .error .tooDeep
      | depth + 1 => String.toList <$> fillSegments depth data (segments field.spec)
    else pure field.spec
  (found.format spec).mapError .format
termination_by (depth, 0, 0)

end

/-- The text of a template filled from data. -/
def fill [Objects] (text : String) (data : Value) : Except FillError String :=
  fillSegments 1 data (segments text.toList)

/-- Why a text of a query cannot be rendered: the text together with the cause. -/
structure RenderError where
  text : Value
  cause : FillError

/-- The category of a text that cannot be rendered: everything is a bad value of the text or the
data, except a number beyond the range of its layout. -/
def RenderError.category (e : RenderError) : Category :=
  match e.cause.category with
  | .overflow => .overflow
  | _ => .badValue

/-- The failure in words. -/
def RenderError.message (e : RenderError) : String :=
  match e.cause.category with
  | .overflow => e.cause.message
  | .missingKey | .missingIndex | .missingAttribute =>
    "Missing template data for placeholder " ++ e.cause.message ++ " in " ++ e.text.literal
  | .wrongType =>
    "Template data does not fit placeholder in " ++ e.text.literal ++ ": " ++ e.cause.message
  | _ => "Invalid template text " ++ e.text.literal ++ ": " ++ e.cause.message

/-- The text of a query filled from data. Only text can be filled. `SPEC_FULL.md` §11 (lines
202–203). -/
def render [Objects] (text data : Value) : Except RenderError String :=
  match text with
  | .str s => (fill s data).mapError (⟨text, ·⟩)
  | v => .error ⟨v, .access (.noAttribute v.kind "format_map")⟩

end QueryTemplates
