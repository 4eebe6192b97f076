import QueryTemplates.Value.Mapping

/-!
# Equality of values

Two values are equal when they are scalars of one key, sequences of one kind with equal parts in
order, sets with the same members, or mappings with equal values under the same keys, in whatever
order these came. A function equals nothing, and a container that holds itself equals itself.
-/

namespace QueryTemplates

namespace Value

mutual

/-- The values are equal. -/
def same (v other : Value) : Bool :=
  match v with
  | .scalar s =>
    match other with
    | .scalar t => s.same t
    | _ => false
  | .list items =>
    match other.bare with
    | .list others => sameItems items others
    | _ => false
  | .pair first second =>
    match other.bare with
    | .pair third fourth => same first third && same second fourth
    | _ => false
  | .set members =>
    match other with
    | .set others =>
      members.length == others.length && members.all fun s => others.any fun t => t.same s
    | _ => false
  | .map entries =>
    match other.bare with
    | .map others => entries.length == others.length && sameEntries entries others
    | _ => false
  | .loop mark content =>
    match other with
    | .loop another inner => mark == another || same content inner
    | _ => same content other
  | .function => false
  | .endless => false

/-- The items are equal one by one. -/
def sameItems (items others : List Value) : Bool :=
  match items, others with
  | [], [] => true
  | v :: items, w :: others => same v w && sameItems items others
  | _, _ => false

/-- Every entry has an equal value under its key in another mapping. -/
def sameEntries (entries : List (Scalar × Value)) (others : Mapping) : Bool :=
  match entries with
  | [] => true
  | (key, v) :: rest =>
    (match Mapping.get? others key with
      | some w => same v w
      | none => false) && sameEntries rest others

end

end Value

end QueryTemplates
