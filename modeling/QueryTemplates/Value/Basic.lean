import QueryTemplates.Number.Basic
import QueryTemplates.Calendar

/-!
# Values

Template data is made of values: scalars, lists, pairs, sets of scalars, and mappings from scalars
to values that keep the order in which their keys came. A mapping is the list of its entries. The
list may repeat a key only in values that no operation here builds; `Mapping.get?` then answers the
first entry.

A container of a document may hold itself. Such a *loop* is laid out as a tree as far down as any
reading goes, and ends there without an answer. Wherever the container comes up again in the tree it
has the same mark, so that its written form can stop there.

The data of `SPEC_FULL.md` §10.3 (lines 169–173) are such values.
-/

namespace QueryTemplates

/-- A value without parts. Only scalars are keys of mappings. -/
inductive Scalar where
  | null
  | bool (value : Bool)
  | int (value : Int)
  | float (value : Binary64)
  | str (text : String)
  | bytes (content : List UInt8)
  | date (value : Date)
  | datetime (value : DateTime)
deriving DecidableEq

/-- Tells a container that holds itself from all others. -/
structure LoopMark where
  /-- The number of the container in its document. -/
  number : Nat
  /-- The number of a pair in a list of pairs; the list itself has none. -/
  pair : Option Nat
deriving DecidableEq

/-- A value with its parts. -/
inductive Value where
  | scalar (value : Scalar)
  | list (items : List Value)
  | pair (first second : Value)
  | set (members : List Scalar)
  | map (entries : List (Scalar × Value))
  /-- A function, of which nothing but its kind is known. -/
  | function
  /-- A container that holds itself; `mark` tells it from others. -/
  | loop (mark : LoopMark) (content : Value)
  /-- What lies deeper in a loop than any reading goes. -/
  | endless

/-- The entries of a mapping in their order. -/
abbrev Mapping := List (Scalar × Value)

namespace Value

/-- The value without content. -/
@[match_pattern] abbrev null : Value := .scalar .null

/-- A truth value. -/
@[match_pattern] abbrev bool (value : Bool) : Value := .scalar (.bool value)

/-- An integer of any size. -/
@[match_pattern] abbrev int (value : Int) : Value := .scalar (.int value)

/-- A binary number. -/
@[match_pattern] abbrev float (value : Binary64) : Value := .scalar (.float value)

/-- A text. -/
@[match_pattern] abbrev str (text : String) : Value := .scalar (.str text)

/-- A sequence of bytes. -/
@[match_pattern] abbrev bytes (content : List UInt8) : Value := .scalar (.bytes content)

instance : Inhabited Value := ⟨null⟩

end Value

/-- The kind of a value, as messages name it. -/
inductive Kind where
  | null
  | bool
  | int
  | float
  | str
  | bytes
  | date
  | datetime
  | list
  | pair
  | set
  | map
  | function
deriving DecidableEq

namespace Kind

/-- The name of a kind. -/
def name : Kind → String
  | .null => "NoneType"
  | .bool => "bool"
  | .int => "int"
  | .float => "float"
  | .str => "str"
  | .bytes => "bytes"
  | .date => "date"
  | .datetime => "datetime"
  | .list => "list"
  | .pair => "tuple"
  | .set => "set"
  | .map => "dict"
  | .function => "function"

/-- The name of a kind with the collection it belongs to, which only dates and times have. -/
def longName : Kind → String
  | .date => "datetime.date"
  | .datetime => "datetime.datetime"
  | kind => kind.name

end Kind

/-- The kind of a scalar. -/
def Scalar.kind : Scalar → Kind
  | .null => .null
  | .bool _ => .bool
  | .int _ => .int
  | .float _ => .float
  | .str _ => .str
  | .bytes _ => .bytes
  | .date _ => .date
  | .datetime _ => .datetime

/-- The number a scalar is counted as: truth values count as one and zero. -/
def Scalar.number? : Scalar → Option Number
  | .bool b => some (.int (if b then 1 else 0))
  | .int n => some (.int n)
  | .float x => some (.float x)
  | _ => none

namespace Value

/-- The kind of a value. -/
def kind : Value → Kind
  | .scalar s => s.kind
  | .list _ => .list
  | .pair _ _ => .pair
  | .set _ => .set
  | .map _ => .map
  | .function => .function
  | .loop _ content => content.kind
  | .endless => .map

/-- The value without the mark of a loop. -/
def bare : Value → Value
  | .loop _ content => content.bare
  | v => v

/-- The entries of a mapping, whether it is a loop or not. -/
def entries? (v : Value) : Option (List (Scalar × Value)) :=
  match v.bare with
  | .map entries => some entries
  | _ => none

/-- The number a value is; truth values are none. -/
def number? : Value → Option Number
  | .int n => some (.int n)
  | .float x => some (.float x)
  | _ => none

/-- The value counts as true: it is not null, false, a zero, or empty. -/
def truthy : Value → Bool
  | .scalar .null => false
  | .scalar (.bool b) => b
  | .scalar (.int n) => n != 0
  | .scalar (.float x) => x.toInt? != some 0
  | .scalar (.str s) => !s.isEmpty
  | .scalar (.bytes bs) => !bs.isEmpty
  | .scalar _ => true
  | .list items => !items.isEmpty
  | .pair _ _ => true
  | .set members => !members.isEmpty
  | .map entries => !entries.isEmpty
  | .function => true
  | .loop _ content => content.truthy
  | .endless => true

@[simp] theorem bare_map (entries : List (Scalar × Value)) :
    bare (.map entries) = .map entries := rfl

@[simp] theorem bare_list (items : List Value) : bare (.list items) = .list items := rfl

@[simp] theorem bare_scalar (s : Scalar) : bare (.scalar s) = .scalar s := rfl

@[simp] theorem bare_loop (mark : LoopMark) (v : Value) : bare (.loop mark v) = v.bare := rfl

/-- What is left without marks of loops is no loop. -/
theorem bare_ne_loop (v : Value) (mark : LoopMark) (content : Value) :
    v.bare ≠ .loop mark content := by
  cases v with
  | loop mark' content' => exact bare_ne_loop content' mark content
  | _ => exact nofun

@[simp] theorem entries?_map (entries : List (Scalar × Value)) :
    entries? (.map entries) = some entries := rfl

/-- A number as a value. -/
def ofNumber : Number → Value
  | .int n => .int n
  | .float x => .float x

@[simp] theorem number?_ofNumber (n : Number) : (ofNumber n).number? = some n := by
  cases n <;> rfl

/-- A value is a number exactly when it was made of that number. -/
theorem number?_eq_some_iff {v : Value} {n : Number} :
    v.number? = some n ↔ v = ofNumber n := by
  constructor
  · intro h
    cases v with
    | scalar s => cases s <;> simp_all [number?] <;> subst h <;> rfl
    | _ => simp [number?] at h
  · rintro rfl
    simp

end Value

end QueryTemplates
