import QueryTemplates.DataOptions
import QueryTemplates.Proofs.Value.Reach

/-!
# Paths into nested mappings

A path of texts leads from a value through nested mappings. What it finds in the upper one of two
mappings, and is no mapping itself, it finds in the merged one too, whatever the lower one has along
the path. After a value was laid at a path, the value is found there; other values are found where
they were, as long as neither path leads through the end of the other, and nowhere else.

About `SPEC_FULL.md` §10.3 (lines 174–178) and §13 (lines 213–215).
-/

namespace QueryTemplates

/-- What is found along a path of texts. -/
def Value.find? : Value → List String → Option Value
  | v, [] => some v
  | v, key :: rest => (v.entries?.bind (Mapping.get? · (.str key))).bind (find? · rest)

/-- Neither path is where the other begins. -/
def Apart (p q : List String) : Prop := ¬p <+: q ∧ ¬q <+: p

instance (p q : List String) : Decidable (Apart p q) := inferInstanceAs (Decidable (_ ∧ _))

theorem Apart.left_ne_nil {p q : List String} (h : Apart p q) : p ≠ [] := by
  rintro rfl
  exact h.1 List.nil_prefix

theorem Apart.right_ne_nil {p q : List String} (h : Apart p q) : q ≠ [] := by
  rintro rfl
  exact h.2 List.nil_prefix

/-- Paths that are apart part at the first key or behind it. -/
theorem apart_cons_cons {j k : String} {p q : List String} :
    Apart (j :: p) (k :: q) ↔ (j = k → Apart p q) := by
  by_cases h : j = k
  · subst h
    simp [Apart, List.cons_prefix_cons]
  · simp [Apart, List.cons_prefix_cons, h, Ne.symm h]

namespace Value

/-- A path of texts is a path of keys. -/
theorem find?_eq_reach? (v : Value) (path : List String) :
    v.find? path = v.reach? (path.map .str) := by
  induction path generalizing v with
  | nil => rfl
  | cons key path ih => exact Option.bind_congr fun part _ => ih part

theorem find?_cons (v : Value) (key : String) (path : List String) :
    v.find? (key :: path) = (v.part? (.str key)).bind (·.find? path) := rfl

end Value

namespace Mapping

variable {v w : Value} {path : List String}

/-! ### Paths into merged mappings -/

/-- What a path finds in the upper value, and is no mapping, stays when the value is merged. -/
theorem find?_mergeValue (hv : v.WellKeyed) (hw : w.entries? = none) (h : v.find? path = some w)
    (before : Option Value) : (mergeValue before v).find? path = some w := by
  rw [Value.find?_eq_reach?] at h ⊢
  rw [reach?_mergeValue_of_eq_some hv h, mergeValue_of_entries?_none hw]

/-- The upper one of two mappings decides what a path finds, once it finds something there that is
no mapping. -/
theorem find?_merge {base override : Mapping} (hover : override.WellKeyed)
    (hw : w.entries? = none) (h : (Value.map override).find? path = some w) :
    (Value.map (merge base override)).find? path = some w := by
  rw [← mergeValue_map_map]
  exact find?_mergeValue (.mapping rfl hover.distinct hover.values) hw h _

end Mapping

/-! ### One value at a path -/

namespace Assignment

open Mapping Value

variable {v w : Value} {path other : List String}

/-- A value nested at a path repeats no key. -/
theorem wellKeyed_nest (hv : v.WellKeyed) (path : List String) : (nest v path).WellKeyed := by
  induction path with
  | nil => exact hv
  | cons key rest ih => exact .mapping rfl (.singleton _ _) (by simpa using ih)

/-- A value nested at a path has no loops of its own. -/
theorem ends_nest (hv : v.Ends) (path : List String) : (nest v path).Ends := by
  induction path with
  | nil => exact hv
  | cons key rest ih => exact .mapping rfl (by simpa using ih)

/-- What is found after a value was laid at a path: that value at the path itself, and at paths
apart from it what was there before. -/
theorem find?_mergeValue_nest_iff (hv : v.entries? = none) (hw : w.entries? = none)
    (before : Option Value) :
    (mergeValue before (nest v path)).find? other = some w ↔
      (other = path ∧ w = v) ∨ (Apart path other ∧ before.bind (·.find? other) = some w) := by
  induction path generalizing before other with
  | nil =>
    have hapart : ¬Apart [] other := fun h => h.left_ne_nil rfl
    rw [nest, mergeValue_of_entries?_none hv]
    cases other with
    | nil => simp [hapart, find?, eq_comm]
    | cons key rest => simp [hapart, find?_cons, part?_of_entries?_none hv]
  | cons k path ih =>
    have hnest : (nest v (k :: path)).entries? = some [(.str k, nest v path)] := rfl
    cases other with
    | nil =>
      -- a mapping is found where the path begins
      have hapart : ¬Apart (k :: path) [] := fun h => h.right_ne_nil rfl
      have hmapping : (mergeValue before (nest v (k :: path))).entries? ≠ none := by
        cases hold : ofValue? before with
        | none => simp [mergeValue_of_ofValue?_none hold, hnest]
        | some old => simp [entries?_mergeValue hold hnest]
      simp only [find?, Option.some.injEq, reduceCtorEq, false_and, hapart, or_false, iff_false]
      rintro rfl
      exact hmapping hw
    | cons key other =>
      have hbefore : before.bind (·.find? (key :: other))
          = (before.bind (·.part? (.str key))).bind (·.find? other) :=
        (Option.bind_assoc before _ _).symm
      rw [find?_cons, part?_mergeValue hnest (.singleton _ _), hbefore, get?_cons,
        Scalar.same_str, get?_nil]
      by_cases hkey : k = key
      · -- both paths lead through this key
        subst hkey
        rw [if_pos (beq_self_eq_true k)]
        simpa [apart_cons_cons] using ih (before.bind (·.part? (.str k)))
      · simp [apart_cons_cons, hkey, Ne.symm hkey]

end Assignment

end QueryTemplates
