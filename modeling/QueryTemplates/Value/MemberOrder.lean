import QueryTemplates.Value.Basic

/-!
# The order of members

A set shows its members in the order of their places in a table. The table has a power of two
places, more than twice as many as members unless those are few, and each member goes to the first
free place on its way through the table. The way begins at the remainder of the member, so small
natural numbers come in increasing order. Only numbers have remainders; a set with other members
keeps the order in which they came.
-/

namespace QueryTemplates

/-- The prime that remainders are taken by. -/
def remainderPrime : Nat := powerOfTwo 61 - 1

/-- A remainder with its sign; the number minus one is no remainder and gives way to minus two. -/
def signedRemainder (negative : Bool) (remainder : Nat) : Int :=
  if !negative then remainder
  else if remainder = 1 then -2
  else -(remainder : Int)

/-- The remainder of a binary number. A unit is `2 ^ -1074`, and `2 ^ 61` leaves the remainder one,
so a unit leaves that of `2 ^ 24`. What is not a number has none. -/
def Binary64.remainder? : Binary64 → Option Int
  | .nan _ => none
  | .infinite negative => some (signedRemainder negative 314159)
  | .finite negative rank =>
    some (signedRemainder negative (rankUnits rank * powerOfTwo 24 % remainderPrime))

/-- The remainder of a scalar that counts as a number; equal numbers have the same. -/
def Scalar.remainder? (s : Scalar) : Option Int :=
  match s.number? with
  | some (.int n) => some (signedRemainder (decide (n < 0)) (n.natAbs % remainderPrime))
  | some (.float x) => x.remainder?
  | none => none

namespace MemberTable

/-- Doubles the size of a table until more than half of it stays free. -/
def enlarge (count : Nat) : Nat → Nat → Nat
  | 0, size => size
  | fuel + 1, size => if size ≤ 2 * count then enlarge count fuel (2 * size) else size

/-- The number of places for members. -/
def size (count : Nat) : Nat := if count < 5 then 8 else enlarge count count 8

/-- How many places behind one on the way are looked at together with it. -/
def stride : Nat := 9

/-- The places that are looked at together, from `place` on; near the end of the table it is looked
at alone. -/
def neighbours (size place : Nat) : List Nat :=
  if place + stride < size then (List.range (stride + 1)).map (place + ·) else [place]

/-- The first place on the way from `place` that is not taken. The bits of the remainder that are
left over, `surplus`, lead on. -/
def freePlace (size : Nat) (taken : List Nat) : Nat → Nat → Nat → Nat
  | 0, _, place => place
  | steps + 1, surplus, place =>
    match (neighbours size place).find? fun p => !taken.contains p with
    | some free => free
    | none =>
      freePlace size taken steps (surplus / 32) ((place * 5 + 1 + surplus / 32) % size)

/-- The place of a member with the given remainder. -/
def placeOf (size : Nat) (taken : List Nat) (remainder : Int) : Nat :=
  let bits := (remainder % (powerOfTwo 64 : Int)).toNat
  freePlace size taken (size + 16) bits (bits % size)

/-- The members with their places. -/
def fill (size : Nat) : List (Nat × Scalar) → List (Int × Scalar) → List (Nat × Scalar)
  | placed, [] => placed
  | placed, (remainder, s) :: rest =>
    fill size ((placeOf size (placed.map (·.1)) remainder, s) :: placed) rest

end MemberTable

/-- The members in the order of their places. -/
def orderMembers (members : List Scalar) : List Scalar :=
  match members.mapM fun s => s.remainder?.map (·, s) with
  | some numbers =>
    let placed := MemberTable.fill (MemberTable.size members.length) [] numbers
    (placed.mergeSort fun a b => decide (a.1 ≤ b.1)).map (·.2)
  | none => members

end QueryTemplates
