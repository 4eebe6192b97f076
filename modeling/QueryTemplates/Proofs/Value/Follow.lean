import QueryTemplates.Proofs.Value.Reach
import QueryTemplates.Proofs.Value.Reordered
import QueryTemplates.Reading.Place

/-!
# What steps lead to

A step leads from a mapping to the value at a key and from a list to one of its items. Steps one
after the other lead to a part of a part; loops are passed through. What holds of all mappings in a
value holds of those that steps lead to.
-/

namespace QueryTemplates

namespace Value

/-- The items of a list, whether it is a loop or not. -/
def items? (v : Value) : Option (List Value) :=
  match v.bare with
  | .list items => some items
  | _ => none

/-- The part that a step leads to. -/
def step? (v : Value) : Step → Option Value
  | .key name => v.part? (.str name)
  | .index number => v.items?.bind (·[number]?)

/-- What the steps lead to, one after the other. -/
def follow? : Value → List Step → Option Value
  | v, [] => some v
  | v, step :: rest => (v.step? step).bind (follow? · rest)

variable {v w : Value} {m : Mapping} {items : List Value} {name : String}

theorem items?_eq_some_iff : v.items? = some items ↔ v.bare = .list items := by
  unfold items?
  split
  · next found h => rw [h, Option.some.injEq, Value.list.injEq]
  · next h => exact iff_of_false nofun (h items)

theorem follow?_nil (v : Value) : v.follow? [] = some v := rfl

/-- Steps in two parts are followed one part after the other. -/
theorem follow?_append (v : Value) (front steps : List Step) :
    v.follow? (front ++ steps) = (v.follow? front).bind (·.follow? steps) := by
  induction front generalizing v with
  | nil => rfl
  | cons step front ih =>
    rw [List.cons_append, follow?, follow?, Option.bind_assoc]
    exact Option.bind_congr fun part _ => ih part

/-- Behind what some steps lead to, the rest are followed from there. -/
theorem follow?_append_of_eq_some {front : List Step} (h : v.follow? front = some w)
    (steps : List Step) : v.follow? (front ++ steps) = w.follow? steps := by
  rw [follow?_append, h, Option.bind_some]

theorem follow?_singleton (v : Value) (step : Step) : v.follow? [step] = v.step? step := by
  rw [follow?]
  exact Option.bind_fun_some _

/-- The value at a key of a mapping is one step away. -/
theorem follow?_key (hm : v.entries? = some m) (hw : Mapping.get? m (.str name) = some w) :
    v.follow? [.key name] = some w := by
  rw [follow?_singleton, step?, part?_of_entries? hm, hw]

/-- An item of a list is one step away. -/
theorem follow?_index (hitems : v.items? = some items) {number : Nat}
    (hw : items[number]? = some w) : v.follow? [.index number] = some w := by
  rw [follow?_singleton, step?, hitems, Option.bind_some, hw]

/-! ### Sizes -/

theorem sizeOf_bare_le (v : Value) : sizeOf v.bare ≤ sizeOf v := by
  cases v with
  | loop mark content =>
    have hcontent := sizeOf_bare_le content
    rw [bare_loop, loop.sizeOf_spec]
    omega
  | _ => exact Nat.le_refl _

/-- What stands at a key is smaller than the whole. -/
theorem sizeOf_lt_of_get? {key : Scalar} (hm : v.entries? = some m)
    (hw : Mapping.get? m key = some w) : sizeOf w < sizeOf v := by
  have hbare := sizeOf_bare_le v
  have hget := Mapping.sizeOf_get? hw
  rw [entries?_eq_some_iff.mp hm, Value.map.sizeOf_spec] at hbare
  omega

/-- An item is smaller than the whole. -/
theorem sizeOf_lt_of_mem (hitems : v.items? = some items) (hw : w ∈ items) :
    sizeOf w < sizeOf v := by
  have hbare := sizeOf_bare_le v
  have hmem := List.sizeOf_lt_of_mem hw
  rw [items?_eq_some_iff.mp hitems, Value.list.sizeOf_spec] at hbare
  omega

/-! ### Texts as keys -/

theorem TextKeyed.bare (hv : v.TextKeyed) : v.bare.TextKeyed := by
  induction hv with
  | loop mark _ ih => exact ih
  | scalar s => exact .scalar s
  | list hitems => exact .list hitems
  | pair hfirst hsecond => exact .pair hfirst hsecond
  | set members => exact .set members
  | map htexts hdistinct hvalues => exact .map htexts hdistinct hvalues
  | function => exact .function
  | endless => exact .endless

/-- The keys of such a value are texts. -/
theorem TextKeyed.allTexts (hv : v.TextKeyed) (hm : v.entries? = some m) : AllTexts m.keys := by
  have hbare := hv.bare
  rw [entries?_eq_some_iff.mp hm] at hbare
  cases hbare with
  | map htexts hdistinct hvalues => exact htexts

/-- A step leads to a value of the same sort. -/
theorem TextKeyed.of_step? {step : Step} (hv : v.TextKeyed) (h : v.step? step = some w) :
    w.TextKeyed := by
  have hbare := hv.bare
  cases step with
  | key name =>
    obtain ⟨m, hm, hget⟩ := Option.bind_eq_some_iff.mp h
    obtain ⟨entry, hentry, rfl⟩ := Mapping.mem_of_get? hget
    rw [entries?_eq_some_iff.mp hm] at hbare
    cases hbare with
    | map htexts hdistinct hvalues => exact hvalues entry hentry
  | index number =>
    obtain ⟨items, hitems, hget⟩ := Option.bind_eq_some_iff.mp h
    rw [items?_eq_some_iff.mp hitems] at hbare
    cases hbare with
    | list hall => exact hall w (List.mem_of_getElem? hget)

/-- So do several. -/
theorem TextKeyed.of_follow? {steps : List Step} (hv : v.TextKeyed)
    (h : v.follow? steps = some w) : w.TextKeyed := by
  induction steps generalizing v with
  | nil =>
    obtain rfl := Option.some.inj h
    exact hv
  | cons step rest ih =>
    obtain ⟨part, hpart, h⟩ := Option.bind_eq_some_iff.mp h
    exact ih (hv.of_step? hpart) h

end Value

end QueryTemplates
