import QueryTemplates.Category
import QueryTemplates.Value.Equality
import QueryTemplates.Value.Merge
import QueryTemplates.Value.Text

/-!
# Parts of values

Looking up a part of a value by a key or an index, going through its elements, and reading a value
as a mapping. What cannot be done names its cause.

Models the steps in texts of `SPEC_FULL.md` §11 (lines 202–203).
-/

namespace QueryTemplates

/-- How an object that is no data refuses a step. -/
inductive StepRefusal where
  | noKey
  | noIndex
  | noAttribute
  | wrongType
  | badValue
deriving DecidableEq

/-- Why a value has no such part. -/
inductive AccessError where
  /-- The mapping has no such key. -/
  | noKey (key : Value)
  /-- The sequence is shorter. -/
  | outOfRange (container : Kind)
  /-- No sequence is that long. -/
  | indexTooLarge
  /-- The sequence is indexed by something other than an integer. -/
  | wrongIndex (container index : Kind)
  /-- Values of that kind have no parts. -/
  | notSubscriptable (container : Kind)
  /-- Values of that kind have no attribute of that name. -/
  | noAttribute (container : Kind) (name : String)
  /-- Values of that kind are never keys. -/
  | notHashable (key : Kind)
  /-- Values of that kind have no elements. -/
  | notIterable (container : Kind)
  /-- The element is to be a key and a value but has no elements itself. -/
  | noPair (index : Nat)
  /-- The element is to be a key and a value but has another number of elements. -/
  | pairLength (index length : Nat)
  /-- Values of the left kind have no order with those of the right one. -/
  | notComparable (operator : String) (left right : Kind)
  /-- Days have no order with times. -/
  | dayWithTime
  /-- Times with an offset have no order with those without one. -/
  | mixedOffsets
  /-- Bytes hold no such member. -/
  | notOctets (item : Kind)
  /-- A string holds no such member. -/
  | notCharacters (item : Kind)
  /-- No octet has that value. -/
  | octetRange
  /-- Values of the kind hold no members. -/
  | noMembers (container : Kind)
  /-- What an attribute led to refuses, in words of its own. -/
  | refused (how : StepRefusal) (message : String)

/-- The kind in quotes. -/
private def kindQuoted (kind : Kind) : String := "'" ++ kind.longName ++ "'"

/-- The cause in words. -/
def AccessError.message : AccessError → String
  | .noKey key => key.literal
  | .outOfRange .list => "list index out of range"
  | .outOfRange .str => "string index out of range"
  | .outOfRange .pair => "tuple index out of range"
  | .outOfRange _ => "index out of range"
  | .indexTooLarge => "cannot fit 'int' into an index-sized integer"
  | .wrongIndex .str index => "string indices must be integers, not " ++ kindQuoted index
  | .wrongIndex .bytes index =>
    "byte indices must be integers or slices, not " ++ index.longName
  | .wrongIndex container index =>
    container.longName ++ " indices must be integers or slices, not " ++ index.longName
  | .notSubscriptable container => kindQuoted container ++ " object is not subscriptable"
  | .noAttribute container name =>
    kindQuoted container ++ " object has no attribute '" ++ name ++ "'"
  | .notHashable key => "unhashable type: " ++ kindQuoted key
  | .notIterable container => kindQuoted container ++ " object is not iterable"
  | .noPair index =>
    "cannot convert dictionary update sequence element #" ++ toString index ++ " to a sequence"
  | .pairLength index length =>
    "dictionary update sequence element #" ++ toString index ++ " has length " ++ toString length
      ++ "; 2 is required"
  | .notComparable operator left right =>
    "'" ++ operator ++ "' not supported between instances of " ++ kindQuoted left ++ " and "
      ++ kindQuoted right
  | .dayWithTime => "can't compare datetime.datetime to datetime.date"
  | .mixedOffsets => "can't compare offset-naive and offset-aware datetimes"
  | .notOctets item => "a bytes-like object is required, not " ++ kindQuoted item
  | .notCharacters item =>
    "'in <string>' requires string as left operand, not " ++ item.longName
  | .octetRange => "byte must be in range(0, 256)"
  | .noMembers container => "argument of type " ++ kindQuoted container ++ " is not iterable"
  | .refused _ message => message

/-- The category of a step that is refused. -/
def StepRefusal.category : StepRefusal → Category
  | .noKey => .missingKey
  | .noIndex => .missingIndex
  | .noAttribute => .missingAttribute
  | .wrongType => .wrongType
  | .badValue => .badValue

/-- The category of a failed access. -/
def AccessError.category : AccessError → Category
  | .noKey _ => .missingKey
  | .outOfRange _ => .missingIndex
  | .indexTooLarge => .missingIndex
  | .noAttribute _ _ => .missingAttribute
  | .pairLength _ _ => .badValue
  | .octetRange => .badValue
  | .refused how _ => how.category
  | _ => .wrongType

namespace Value

/-- The integer an index is, if it is one; truth values are. -/
def index? : Value → Option Int
  | .int n => some n
  | .bool b => some (if b then 1 else 0)
  | _ => none

/-- The element at an index, negative ones counting from the end. -/
def elementAt (container : Kind) (items : List Value) (index : Int) :
    Except AccessError Value :=
  if (powerOfTwo 63 : Int) ≤ index ∨ index < -(powerOfTwo 63 : Int) then .error .indexTooLarge
  else
    let place := if index < 0 then index + items.length else index
    if place < 0 then .error (.outOfRange container)
    else match items[place.toNat]? with
      | some v => .ok v
      | none => .error (.outOfRange container)

/-- A key of a mapping. -/
def asKey : Value → Except AccessError Scalar
  | .scalar s => .ok s
  | v => .error (.notHashable v.kind)

/-- The elements of a string, one character each. -/
def characters (s : String) : List Value := s.toList.map fun c => .str (String.singleton c)

/-- The bytes as integers. -/
def octets (bs : List UInt8) : List Value := bs.map fun b => .int b.toNat

/-- The value at a key of a mapping, if there is one. A function may be asked for but is no key. -/
def entryAt? (entries : Mapping) : Value → Except AccessError (Option Value)
  | .function => .ok none
  | key => do return Mapping.get? entries (← key.asKey)

/-- The part of a value at a key or an index. -/
def item (container key : Value) : Except AccessError Value :=
  let sequence (items : List Value) : Except AccessError Value :=
    match key.index? with
    | some index => elementAt container.kind items index
    | none => .error (.wrongIndex container.kind key.kind)
  match container.bare with
  | .map entries => do
    match ← entryAt? entries key with
    | some v => .ok v
    | none => .error (.noKey key)
  | .list items => sequence items
  | .pair first second => sequence [first, second]
  | .str s => sequence (characters s)
  | .bytes bs => sequence (octets bs)
  | v => .error (.notSubscriptable v.kind)

/-- The elements of a value: the items of a list, the parts of a pair, the members of a set, the
keys of a mapping, the characters of a string, the octets of bytes. -/
def elements (v : Value) : Except AccessError (List Value) :=
  match v.bare with
  | .list items => .ok items
  | .pair first second => .ok [first, second]
  | .set members => .ok (members.map .scalar)
  | .map entries => .ok (entries.map fun entry => .scalar entry.1)
  | .str s => .ok (characters s)
  | .bytes bs => .ok (octets bs)
  | v => .error (.notIterable v.kind)

/-- A list occurs in another one as a run of neighbours. -/
def occursIn [BEq α] (part whole : List α) : Bool :=
  (List.range (whole.length + 1)).any fun start => part.isPrefixOf (whole.drop start)

/-- A value is a member: equal to an item of a list, a part of a pair, or a member of a set, a key
of a mapping, a part of a string, an octet or a part of bytes. -/
def holds (container member : Value) : Except AccessError Bool :=
  match container.bare, member with
  | .map entries, member => do return (← entryAt? entries member).isSome
  | .list items, member => .ok (items.any (same · member))
  | .pair first second, member => .ok (first.same member || second.same member)
  | .set members, member => do
    let key ← member.asKey
    return members.any (·.same key)
  | .str whole, .str part => .ok (occursIn part.toList whole.toList)
  | .str _, member => .error (.notCharacters member.kind)
  | .bytes whole, .bytes part => .ok (occursIn part whole)
  | .bytes whole, member =>
    match member.index? with
    | some n =>
      if 0 ≤ n ∧ n < 256 then .ok (whole.any fun b => (b.toNat : Int) == n)
      else .error .octetRange
    | none => .error (.notOctets member.kind)
  | container, _ => .error (.noMembers container.kind)

/-- An element read as a key and a value. -/
def asPair (index : Nat) (v : Value) : Except AccessError (Scalar × Value) :=
  match v.elements with
  | .error _ => .error (.noPair index)
  | .ok [key, value] => do return (← key.asKey, value)
  | .ok parts => .error (.pairLength index parts.length)

/-- A value read as a mapping: a mapping is one, and any other value with elements is one when
each element is a pair. -/
def toMapping (v : Value) : Except AccessError Mapping :=
  match v.bare with
  | .map entries => .ok entries
  | v => do
    let items ← v.elements
    let pairs ← items.zipIdx.mapM fun (item, index) => item.asPair index
    return Mapping.ofEntries pairs

/-- The entries of a value that must be a mapping; `name` is the attribute it is asked for. -/
def entriesFor (name : String) (v : Value) : Except AccessError Mapping :=
  match v.entries? with
  | some entries => .ok entries
  | none => .error (.noAttribute v.kind name)

/-- A value laid over another one read as a mapping. -/
def merge (base override : Value) : Except AccessError Mapping := do
  let old ← base.toMapping
  let new ← override.entriesFor "items"
  return Mapping.merge old new

end Value

/-- `a < b`; only numbers, texts, bytes, dates, and times of one sort are ordered. -/
def Scalar.lt (a b : Scalar) : Except AccessError Bool :=
  match a.number?, b.number? with
  | some x, some y => .ok (x.lt y)
  | _, _ =>
    match a, b with
    | .str s, .str t => .ok (decide (s < t))
    | .bytes s, .bytes t => .ok (decide (s.map UInt8.toNat < t.map UInt8.toNat))
    | .date s, .date t => .ok (decide (s.dayNumber < t.dayNumber))
    | .datetime s, .datetime t =>
      if s.offset.isSome == t.offset.isSome then .ok (decide (s.instant < t.instant))
      else .error .mixedOffsets
    | .date _, .datetime _ | .datetime _, .date _ => .error .dayWithTime
    | a, b => .error (.notComparable "<" a.kind b.kind)

/-- Puts a scalar behind those that are not greater. -/
def insertSorted (key : Scalar) : List Scalar → Except AccessError (List Scalar)
  | [] => .ok [key]
  | k :: rest => do
    if ← key.lt k then return key :: k :: rest
    return k :: (← insertSorted key rest)

/-- The scalars in increasing order, equal ones as they came. -/
def sortScalars (keys : List Scalar) : Except AccessError (List Scalar) :=
  keys.foldlM (fun sorted key => insertSorted key sorted) []

end QueryTemplates
