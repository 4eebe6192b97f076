import QueryTemplates.Value.Basic

/-!
# Mappings

Keys are the same when they are equal as values, whatever their kinds: `1`, `1.0` and true are one
key, and so are `0` and `-0.0`. Setting a key that is present keeps its place and its spelling and
replaces the value; a new key goes to the end.

The data of `SPEC_FULL.md` §10.3 (lines 169–173) are such mappings.
-/

namespace QueryTemplates

/-- Two scalars are the same key. NaN is the same as NaN of its payload. -/
def Scalar.same (a b : Scalar) : Bool :=
  match a.number?, b.number? with
  | some x, some y => x.same y
  | none, none =>
    match a, b with
    | .datetime s, .datetime t => s.same t
    | a, b => a == b
  | _, _ => false

@[simp] theorem Scalar.same_str (a b : String) : Scalar.same (.str a) (.str b) = (a == b) := by
  rw [Bool.eq_iff_iff]
  simp [Scalar.same, Scalar.number?]

namespace Mapping

/-- The value at a key. -/
def get? : Mapping → Scalar → Option Value
  | [], _ => none
  | (k, v) :: rest, key => if k.same key then some v else get? rest key

/-- The key is present. -/
def contains (m : Mapping) (key : Scalar) : Bool := (get? m key).isSome

/-- The mapping with `value` at `key`. -/
def set : Mapping → Scalar → Value → Mapping
  | [], key, value => [(key, value)]
  | (k, v) :: rest, key, value =>
    if k.same key then (k, value) :: rest else (k, v) :: set rest key value

/-- Sets one entry after the other. -/
def ofEntries (entries : List (Scalar × Value)) : Mapping :=
  entries.foldl (fun m entry => set m entry.1 entry.2) []

/-- The keys in their order. -/
def keys (m : Mapping) : List Scalar := m.map (·.1)

/-- What stands at a key is smaller than the mapping, so that reading ends. -/
theorem sizeOf_get? {m : Mapping} {key : Scalar} {v : Value} (h : get? m key = some v) :
    sizeOf v < sizeOf m := by
  induction m with
  | nil => simp [get?] at h
  | cons entry rest ih =>
    obtain ⟨k, w⟩ := entry
    simp only [get?] at h
    split at h
    · cases h
      simp only [List.cons.sizeOf_spec, Prod.mk.sizeOf_spec]
      omega
    · have := ih h
      simp only [List.cons.sizeOf_spec]
      omega

@[simp] theorem get?_nil (key : Scalar) : get? [] key = none := rfl

/-- A key is contained when it is the same as the key of some entry. -/
theorem contains_eq_any (m : Mapping) (key : Scalar) :
    contains m key = m.any fun entry => entry.1.same key := by
  induction m with
  | nil => rfl
  | cons entry rest ih =>
    obtain ⟨k, w⟩ := entry
    simp only [contains, get?, List.any_cons] at *
    split <;> simp_all

end Mapping

end QueryTemplates
