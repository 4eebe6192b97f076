import QueryTemplates.Value.Access

/-!
# What steps lead to

A step by a key or an index leads from a value to a part of it. A step by an attribute can lead
anywhere: to another value, or to an object that is no data, such as a method or a kind, and from
there on. Which attributes there are is not for this library to say, and neither is how such an
object shows itself, which may tell where it is kept. All this is a parameter, `Objects`, and what
is proved about placeholders is proved for any.

A template text and its data are filled as `SPEC_FULL.md` §11 (lines 202–203) says.
-/

namespace QueryTemplates

/-- What steps lead to: a value, or an object that is no data. -/
inductive Found (Foreign : Type) where
  | value (content : Value)
  | object (content : Foreign)

/-- What placeholders can find behind values, and the characters of texts that have none here. -/
class Objects where
  /-- Objects that are no data. -/
  Foreign : Type
  /-- The name of the kind of an object. -/
  kindName : Foreign → String
  /-- What an object reads as inside other text. -/
  text : Foreign → String
  /-- The unambiguous written form of an object. -/
  literal : Foreign → String
  /-- The attribute of a name. -/
  attributeOf : Found Foreign → String → Except AccessError (Found Foreign)
  /-- The part of an object at a key or an index. -/
  item : Foreign → Value → Except AccessError (Found Foreign)
  /-- The character that stands for one half of a surrogate pair, which is no character itself. -/
  half : Nat → Char

/-- What steps lead to, the objects that are no data being given. -/
abbrev Reached [Objects] := Found Objects.Foreign

/-- The part of what was found at a key or an index. -/
def Found.item [Objects] : Reached → Value → Except AccessError Reached
  | .value v, key => (v.item key).map .value
  | .object o, key => Objects.item o key

/-- The character of a number. -/
def characterOf [Objects] (code : Nat) : Char :=
  if 0xd800 ≤ code ∧ code < 0xe000 then Objects.half code else Char.ofNat code

/-- No value has an attribute, so there are no objects but data. Runs and examples are over these
objects. -/
instance Objects.none : Objects where
  Foreign := Empty
  kindName := Empty.elim
  text := Empty.elim
  literal := Empty.elim
  attributeOf found name :=
    match found with
    | .value v => .error (.noAttribute v.kind name)
    | .object o => o.elim
  item := Empty.elim
  half _ := '\uFFFD'

end QueryTemplates
