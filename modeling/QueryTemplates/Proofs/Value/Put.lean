import QueryTemplates.Proofs.Value.Follow

/-!
# Putting a part where steps lead

What steps lead to can be replaced. The mappings and lists on the way keep their keys, their lengths
and all their other parts, and loops keep their marks. Putting back what is there changes nothing.
-/

namespace QueryTemplates

theorem Mapping.set_of_get?_eq_some {m : Mapping} {key : Scalar} {v : Value}
    (h : get? m key = some v) : Mapping.set m key v = m := by
  induction m with
  | nil => cases h
  | cons entry rest ih =>
    obtain ⟨k, w⟩ := entry
    rw [get?_cons] at h
    rw [set_cons]
    split
    · next hsame =>
      rw [if_pos hsame] at h
      obtain rfl := Option.some.inj h
      rfl
    · next hsame =>
      rw [if_neg hsame] at h
      rw [ih h]

namespace Value

/-- The value with another part one step away; where the step fits nothing, nothing changes. -/
def putStep : Value → Step → Value → Value
  | .map entries, .key name, part => .map (Mapping.set entries (.str name) part)
  | .list items, .index number, part => .list (items.set number part)
  | .loop mark content, step, part => .loop mark (content.putStep step part)
  | v, _, _ => v

/-- The value with another part where the steps lead; if they lead nowhere, nothing changes. -/
def put : Value → List Step → Value → Value
  | _, [], part => part
  | v, step :: rest, part =>
    match v.step? step with
    | some inner => v.putStep step (inner.put rest part)
    | none => v

variable {v part : Value} {step : Step} {front : List Step}

theorem put_nil (v part : Value) : v.put [] part = part := rfl

/-- A part is put behind the first step by putting it into what that leads to. -/
theorem put_cons (h : v.step? step = some part) (rest : List Step) (x : Value) :
    v.put (step :: rest) x = v.putStep step (part.put rest x) := by
  rw [put, h]

/-- A part is put behind steps by putting it into what they lead to. -/
theorem put_append (h : v.follow? front = some part) (steps : List Step) (x : Value) :
    v.put (front ++ steps) x = v.put front (part.put steps x) := by
  induction front generalizing v with
  | nil =>
    obtain rfl := Option.some.inj h
    rfl
  | cons step rest ih =>
    obtain ⟨inner, hinner, h⟩ := Option.bind_eq_some_iff.mp h
    rw [List.cons_append, put_cons hinner, put_cons hinner, ih h]

/-- Loops keep their marks. -/
theorem bare_putStep (v : Value) (step : Step) (x : Value) :
    (v.putStep step x).bare = v.bare.putStep step x := by
  cases v with
  | loop mark content => rw [putStep, bare_loop, bare_loop, bare_putStep content]
  | map entries => cases step <;> rfl
  | list items => cases step <;> rfl
  | _ => rfl

/-- The value at a key of a mapping is set. -/
theorem entries?_put_key {m : Mapping} {name : String} (hm : v.entries? = some m)
    (hpart : Mapping.get? m (.str name) = some part) (x : Value) :
    (v.put [.key name] x).entries? = some (m.set (.str name) x) := by
  have hstep : v.step? (.key name) = some part := by
    rw [← follow?_singleton, follow?_key hm hpart]
  rw [put_cons hstep, put_nil, entries?_eq_some_iff, bare_putStep, entries?_eq_some_iff.mp hm]
  rfl

/-- The item of a list is set. -/
theorem items?_put_index {items : List Value} {number : Nat} (hitems : v.items? = some items)
    (hpart : items[number]? = some part) (x : Value) :
    (v.put [.index number] x).items? = some (items.set number x) := by
  have hstep : v.step? (.index number) = some part := by
    rw [← follow?_singleton, follow?_index hitems hpart]
  rw [put_cons hstep, put_nil, items?_eq_some_iff, bare_putStep, items?_eq_some_iff.mp hitems]
  rfl

/-! ### Putting back -/

theorem putStep_of_step? {v part : Value} {step : Step} (h : v.step? step = some part) :
    v.putStep step part = v := by
  cases v with
  | loop mark content =>
    have hcontent : content.step? step = some part := by cases step <;> exact h
    rw [putStep, putStep_of_step? hcontent]
  | map entries =>
    cases step with
    | key name => exact congrArg Value.map (Mapping.set_of_get?_eq_some h)
    | index number => rfl
  | list items =>
    cases step with
    | key name => rfl
    | index number =>
      obtain ⟨hnumber, rfl⟩ := List.getElem?_eq_some_iff.mp h
      exact congrArg Value.list (List.set_getElem_self hnumber)
  | _ => rfl

/-- To put back what steps lead to changes nothing. -/
theorem put_of_follow? {steps : List Step} (h : v.follow? steps = some part) :
    v.put steps part = v := by
  induction steps generalizing v with
  | nil =>
    obtain rfl := Option.some.inj h
    rfl
  | cons step rest ih =>
    obtain ⟨inner, hinner, h⟩ := Option.bind_eq_some_iff.mp h
    rw [put_cons hinner, ih h, putStep_of_step? hinner]

end Value

end QueryTemplates
