import QueryTemplates.Call.Signature
import QueryTemplates.Fragment.Builder

/-!
# The functions of the library by name

Builders, joiners and checks can be called by name with any arguments. A call is bound to the
signature of its function first and the function is then applied to values of any kind.

Models the names of `SPEC_FULL.md` §6 (lines 106–123).
-/

namespace QueryTemplates

/-- Why a call by name fails. -/
inductive ApplyError where
  | call (cause : CallError)
  | argument (cause : ArgumentError)
  /-- Escaping takes text only. -/
  | notEscapable (got : Kind)

/-- The failure in words. -/
def ApplyError.message : ApplyError → String
  | .call cause => cause.message
  | .argument cause => cause.message
  | .notEscapable .bytes => "cannot use a string pattern on a bytes-like object"
  | .notEscapable got => "expected string or bytes-like object, got '" ++ got.longName ++ "'"

/-- The category of the failure. -/
def ApplyError.category : ApplyError → Category
  | .call _ | .notEscapable _ => .wrongType
  | .argument cause => cause.category

/-- The functions that can be called by name. -/
inductive NamedFunction where
  | term
  | field
  | anyOf
  | allOf
  | butNot
  | group
  | range
  | fuzzy
  | proximity
  | boost
  | required
  | builder
  | escape
  | checkText
  | checkRange
  | checkFunction

namespace NamedFunction

/-- What messages call the joiners. -/
def joinerName : String := "Surrounded.__call__"

/-- What messages call the group. -/
def enclosureName : String := "Surrounder.__call__"

/-- A parameter without a default. -/
private def needed (name : String) : Parameter := ⟨name, none⟩

/-- A parameter with a default. -/
private def optional (name : String) (value : Value) : Parameter := ⟨name, some value⟩

/-- The signature of a function that takes a fixed number of arguments. -/
def signature : NamedFunction → Signature
  | .term => { function := "terms", positional := [needed "words"] }
  | .field => { function := "field", positional := [needed "name", needed "query"] }
  | .range =>
    { function := "range_"
      positional := [needed "start", needed "end", optional "include_left" (.bool false),
        optional "include_right" (.bool false)] }
  | .fuzzy =>
    { function := "fuzzy", positional := [needed "query", optional "similarity" .null] }
  | .proximity =>
    { function := "proximity", positional := [needed "first", needed "second", needed "distance"] }
  | .boost => { function := "boost", positional := [needed "query", needed "factor"] }
  | .required => { function := "required", positional := [needed "query"] }
  | .builder => { function := "builder", positional := [needed "fn"] }
  | .escape => { function := "escape_special_characters", positional := [needed "raw"] }
  | .checkText =>
    { function := "assert_string"
      positional := [needed "value", needed "argument_name", optional "position" .null] }
  | .checkRange =>
    { function := "assert_range"
      positional := [needed "minimum", needed "maximum", needed "value", needed "argument_name",
        optional "position" .null] }
  | .checkFunction =>
    { function := "assert_function"
      positional := [needed "value", needed "argument_name", optional "position" .null] }
  | .anyOf => { function := joinerName, positional := [] }
  | .allOf => { function := joinerName, positional := [] }
  | .butNot => { function := joinerName, positional := [] }
  | .group => { function := enclosureName, positional := [] }

/-- An argument named by values; a null position is none. -/
private def argumentOf (name position : Value) : Argument :=
  ⟨name.text, match position with
    | .null => none
    | position => some position.text⟩

/-- The function applied to one value per parameter. -/
def applyBound (f : NamedFunction) (values : List Value) : Except ApplyError Value :=
  let text (result : Except ArgumentError String) : Except ApplyError Value :=
    (result.mapError .argument).map .str
  let check (result : Except ArgumentError Unit) : Except ApplyError Value :=
    (result.mapError .argument).map fun _ => .null
  match f, values with
  | .term, [words] => text (Builder.term words)
  | .field, [name, query] => text (Builder.field name query)
  | .range, [start, stop, left, right] => text (Builder.range start stop left right)
  | .fuzzy, [query, similarity] => text (Builder.fuzzy query similarity)
  | .proximity, [first, second, distance] => text (Builder.proximity first second distance)
  | .boost, [query, factor] => text (Builder.boost query factor)
  | .required, [query] => text (Builder.required query)
  | .builder, [fn] =>
    ((QueryTemplates.checkFunction (.at "fn" 1) fn).mapError .argument).map fun _ => .function
  | .escape, [.str raw] => .ok (.str (QueryTemplates.escape raw))
  | .escape, [raw] => .error (.notEscapable raw.kind)
  | .checkText, [value, name, position] =>
    check ((QueryTemplates.checkText (argumentOf name position) value).map fun _ => ())
  | .checkRange, [least, most, value, name, position] =>
    check ((QueryTemplates.checkRange least most (argumentOf name position) value).map fun _ => ())
  | .checkFunction, [value, name, position] =>
    check (QueryTemplates.checkFunction (argumentOf name position) value)
  | _, _ => .ok .null

/-- The function called with positional and named arguments. -/
def apply (f : NamedFunction) (positional : List Value) (named : List (String × Value)) :
    Except ApplyError Value :=
  let joined (function : String) (join : List Value → Except ArgumentError String) := do
    (Signature.bindAny function "self" named).mapError .call
    (.str ·) <$> (join positional).mapError .argument
  match f with
  | .anyOf => joined joinerName Fragment.anyOf.join
  | .allOf => joined joinerName Fragment.allOf.join
  | .butNot => joined joinerName Fragment.butNot.join
  | .group => joined enclosureName Fragment.group.join
  | f => do
    let values ← (f.signature.bind positional named).mapError .call
    f.applyBound values

end NamedFunction

end QueryTemplates
