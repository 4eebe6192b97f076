import QueryTemplates.Value.Mapping

/-!
# Merging mappings

`merge base override` is `base` with the entries of `override` set one by one, except that two
mappings under one key are merged in turn. Keys of `base` keep their places, new keys follow in
the order of `override`. A mapping that another one is laid over is no loop afterwards; one that
only takes its place keeps its mark.

Laying a loop over a loop leads on and on. `mergeEnds` tells when it does not, and `layer` is the
merge where it ends.

Models `SPEC_FULL.md` §10.3 (lines 174–178).
-/

namespace QueryTemplates

namespace Mapping

/-- The mapping that a value is, if there is a value and it is one. -/
def ofValue? (before : Option Value) : Option Mapping := before.bind Value.entries?

mutual

/-- `base` with the entries of `override` laid over it. `SPEC_FULL.md` §10.3 (lines 174–178). -/
def merge (base : Mapping) : Mapping → Mapping
  | [] => base
  | (key, value) :: rest => merge (set base key (mergeValue (get? base key) value)) rest

/-- The value that stands at a key after `value` was laid over the one there before. -/
def mergeValue (before : Option Value) : Value → Value
  | .map entries =>
    match ofValue? before with
    | some old => .map (merge old entries)
    | none => .map entries
  | .loop mark content =>
    match ofValue? before, content.entries? with
    | some _, some _ => mergeValue before content
    | _, _ => .loop mark content
  | value => value

end

mutual

/-- Laying the entries over `base` comes to an end. -/
def mergeEnds (base : Mapping) : Mapping → Bool
  | [] => true
  | (key, value) :: rest => mergeValueEnds (get? base key) value && mergeEnds base rest

/-- Laying `value` over the value before comes to an end. -/
def mergeValueEnds (before : Option Value) : Value → Bool
  | .map entries =>
    match before.map Value.bare with
    | some (.map old) => mergeEnds old entries
    | some .endless => false
    | _ => true
  | .loop _ content => mergeValueEnds before content
  | .endless =>
    match before.map Value.bare with
    | some (.map _) => false
    | some .endless => false
    | _ => true
  | _ => true

end

/-- `override` laid over `base`, if that comes to an end. -/
def layer? (base override : Mapping) : Option Mapping :=
  if mergeEnds base override then some (merge base override) else none

@[simp] theorem merge_nil_right (m : Mapping) : merge m [] = m := by simp [merge]

/-- Entries are laid over a mapping one after the other. -/
theorem merge_cons (base : Mapping) (key : Scalar) (value : Value) (rest : Mapping) :
    merge base ((key, value) :: rest)
      = merge (set base key (mergeValue (get? base key) value)) rest := by
  simp [merge]

@[simp] theorem ofValue?_none : ofValue? none = none := rfl

@[simp] theorem ofValue?_map (m : Mapping) : ofValue? (some (.map m)) = some m := rfl

@[simp] theorem mergeValue_none (v : Value) : mergeValue none v = v := by
  cases v <;> simp [mergeValue]

/-- Two mappings are merged entry by entry. -/
theorem mergeValue_map_map (old entries : Mapping) :
    mergeValue (some (.map old)) (.map entries) = .map (merge old entries) := by
  simp [mergeValue]

/-- A value that is no mapping takes the place of what was there. -/
theorem mergeValue_of_entries?_none {v : Value} (h : v.entries? = none) (before : Option Value) :
    mergeValue before v = v := by
  cases v with
  | map m => simp at h
  | loop mark content =>
    have hc : content.entries? = none := h
    simp [mergeValue, hc]
  | _ => simp [mergeValue]

end Mapping

end QueryTemplates
