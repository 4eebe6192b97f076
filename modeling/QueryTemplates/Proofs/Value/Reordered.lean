import QueryTemplates.Proofs.Value.Lookup
import QueryTemplates.Proofs.Value.Sorting

/-!
# Values with their entries in another order

Two values differ in the order of entries only when one becomes the other by putting the entries of
mappings in it into another order, one mapping after the other. Where all keys are texts and none
comes twice, they are so in every value that results.
-/

namespace QueryTemplates

namespace Value

/-- The keys of every mapping in the value are texts, and none of them comes twice. -/
inductive TextKeyed : Value → Prop
  | scalar (s : Scalar) : TextKeyed (.scalar s)
  | list {items : List Value} (hitems : ∀ v ∈ items, TextKeyed v) : TextKeyed (.list items)
  | pair {first second : Value} (hfirst : TextKeyed first) (hsecond : TextKeyed second) :
    TextKeyed (.pair first second)
  | set (members : List Scalar) : TextKeyed (.set members)
  | map {entries : Mapping} (htexts : AllTexts entries.keys) (hdistinct : entries.Distinct)
    (hvalues : ∀ entry ∈ entries, TextKeyed entry.2) : TextKeyed (.map entries)
  | function : TextKeyed .function
  | loop (mark : LoopMark) {content : Value} (hcontent : TextKeyed content) :
    TextKeyed (.loop mark content)
  | endless : TextKeyed .endless

/-- The values differ in nothing but the order of the entries of mappings in them. -/
inductive Reordered : Value → Value → Prop
  | refl (v : Value) : Reordered v v
  /-- The entries of a mapping in another order. -/
  | entries {m n : Mapping} (h : m.Perm n) : Reordered (.map m) (.map n)
  /-- One value of a mapping. -/
  | value (before : Mapping) (key : Scalar) {v w : Value} (behind : Mapping) (h : Reordered v w) :
    Reordered (.map (before ++ (key, v) :: behind)) (.map (before ++ (key, w) :: behind))
  /-- One item of a list. -/
  | item (before : List Value) {v w : Value} (behind : List Value) (h : Reordered v w) :
    Reordered (.list (before ++ v :: behind)) (.list (before ++ w :: behind))
  | first {v w : Value} (second : Value) (h : Reordered v w) :
    Reordered (.pair v second) (.pair w second)
  | second (first : Value) {v w : Value} (h : Reordered v w) :
    Reordered (.pair first v) (.pair first w)
  | loop (mark : LoopMark) {v w : Value} (h : Reordered v w) :
    Reordered (.loop mark v) (.loop mark w)
  | trans {u v w : Value} (h : Reordered u v) (h' : Reordered v w) : Reordered u w

variable {v w : Value}

/-- The value of an entry does not matter to the keys. -/
theorem keys_append_cons (before : Mapping) (key : Scalar) (v w : Value) (behind : Mapping) :
    Mapping.keys (before ++ (key, v) :: behind) = Mapping.keys (before ++ (key, w) :: behind) := by
  simp [Mapping.keys]

theorem TextKeyed.of_reordered (hv : v.TextKeyed) (h : v.Reordered w) : w.TextKeyed := by
  induction h with
  | refl v => exact hv
  | @entries m n h =>
    cases hv with
    | map htexts hdistinct hvalues =>
      have hkeys := Mapping.keys_perm h
      refine .map (htexts.of_perm hkeys) (hdistinct.of_keys_perm hkeys) fun entry hentry => ?_
      exact hvalues entry (h.mem_iff.mpr hentry)
  | @value before key v w behind _ ih =>
    cases hv with
    | map htexts hdistinct hvalues =>
      have hkeys := keys_append_cons before key v w behind
      rw [List.forall_mem_append, List.forall_mem_cons] at hvalues
      obtain ⟨hbefore, hv, hbehind⟩ := hvalues
      refine .map (hkeys ▸ htexts) ?_ ?_
      · rwa [Mapping.Distinct, ← hkeys]
      · rw [List.forall_mem_append, List.forall_mem_cons]
        exact ⟨hbefore, ih hv, hbehind⟩
  | item before behind _ ih =>
    cases hv with
    | list hitems =>
      rw [List.forall_mem_append, List.forall_mem_cons] at hitems
      obtain ⟨hbefore, hv, hbehind⟩ := hitems
      apply TextKeyed.list
      rw [List.forall_mem_append, List.forall_mem_cons]
      exact ⟨hbefore, ih hv, hbehind⟩
  | first second _ ih =>
    cases hv with
    | pair hfirst hsecond => exact .pair (ih hfirst) hsecond
  | second first _ ih =>
    cases hv with
    | pair hfirst hsecond => exact .pair hfirst (ih hsecond)
  | loop mark _ ih =>
    cases hv with
    | loop _ hcontent => exact .loop mark (ih hcontent)
  | trans _ _ ih ih' => exact ih' (ih hv)

end Value

end QueryTemplates
