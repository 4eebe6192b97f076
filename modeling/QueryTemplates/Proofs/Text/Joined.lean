import Mathlib.Data.List.Basic

/-!
# Joined texts

What holds of a separator and of the parts holds of the parts with the separator in between.
-/

namespace QueryTemplates

theorem forall_mem_intercalate {α : Type} {P : α → Prop} {separator : List α}
    (hseparator : ∀ a ∈ separator, P a) {parts : List (List α)}
    (hparts : ∀ part ∈ parts, ∀ a ∈ part, P a) : ∀ a ∈ separator.intercalate parts, P a := by
  induction parts with
  | nil => exact nofun
  | cons part rest ih =>
    obtain ⟨hpart, hrest⟩ := List.forall_mem_cons.mp hparts
    match rest with
    | [] => rwa [List.intercalate_singleton]
    | next :: others =>
      rw [List.intercalate_cons_cons]
      simp only [List.forall_mem_append]
      exact ⟨⟨hpart, hseparator⟩, ih hrest⟩

/-- Parts that are joined in groups first, and then the groups, are joined as they would be at
once. A group without parts would leave two separators side by side. -/
theorem intercalate_flatMap {α : Type} (separator : String) {groups : α → List String}
    {xs : List α} (h : ∀ x ∈ xs, groups x ≠ []) :
    separator.intercalate (xs.flatMap groups)
      = separator.intercalate (xs.map fun x => separator.intercalate (groups x)) := by
  induction xs with
  | nil => rfl
  | cons x rest ih =>
    obtain ⟨hx, hrest⟩ := List.forall_mem_cons.mp h
    rw [List.flatMap_cons, List.map_cons]
    cases rest with
    | nil => simp
    | cons y rest =>
      have hy : groups y ≠ [] := hrest y List.mem_cons_self
      have htail : (y :: rest).flatMap groups ≠ [] := by simp [hy]
      rw [String.intercalate_append_of_ne_nil hx htail, ih hrest,
        String.intercalate_cons_of_ne_nil (by simp)]

end QueryTemplates
