import QueryTemplates.Value.Merge

/-!
# Looking up keys

Being the same key is an equivalence: every scalar has an identity as a key, and two scalars are
the same key when their identities are equal. So what is set at a key is found at that key and
nowhere else, and a mapping whose keys are distinct is told by what is found in it.
-/

namespace QueryTemplates

/-- What a scalar is as a key. -/
inductive KeyIdentity where
  /-- A number by its exact value. -/
  | level (value : Level)
  /-- A NaN by its payload. -/
  | nan (value : Number)
  /-- A time by its moment, and by whether it has an offset. -/
  | moment (hasOffset : Bool) (instant : Int)
  /-- Any other scalar by itself. -/
  | plain (value : Scalar)

/-- The identity of a number as a key. -/
def Number.identity (n : Number) : KeyIdentity :=
  match n.level? with
  | some level => .level level
  | none => .nan n

/-- The identity of a scalar as a key. -/
def Scalar.identity (s : Scalar) : KeyIdentity :=
  match s with
  | .bool b => (Number.int (if b then 1 else 0)).identity
  | .int n => (Number.int n).identity
  | .float x => (Number.float x).identity
  | .datetime t => .moment t.offset.isSome t.instant
  | s => .plain s

theorem Number.same_iff {m n : Number} : m.same n = true ↔ m.identity = n.identity := by
  unfold Number.same Number.identity
  cases m.level? <;> cases n.level? <;> simp

theorem Scalar.identity_of_number? {s : Scalar} {n : Number} (h : s.number? = some n) :
    s.identity = n.identity := by
  cases s with
  | bool b =>
    obtain rfl := Option.some.inj h
    rfl
  | int k =>
    obtain rfl := Option.some.inj h
    rfl
  | float x =>
    obtain rfl := Option.some.inj h
    rfl
  | _ => cases h

theorem Scalar.identity_ne_of_number? {s : Scalar} (h : s.number? = none) (n : Number) :
    n.identity ≠ s.identity := by
  unfold Number.identity
  cases s with
  | bool b => cases h
  | int k => cases h
  | float x => cases h
  | _ => split <;> exact nofun

/-- Two scalars are the same key when their identities are equal. -/
theorem Scalar.same_iff {a b : Scalar} : a.same b = true ↔ a.identity = b.identity := by
  unfold Scalar.same
  cases ha : a.number? with
  | some m =>
    rw [identity_of_number? ha]
    cases hb : b.number? with
    | some n => rw [identity_of_number? hb, Number.same_iff]
    | none => simp [identity_ne_of_number? hb m]
  | none =>
    cases hb : b.number? with
    | some n => simp [identity_of_number? hb, (identity_ne_of_number? ha n).symm]
    | none => cases a <;> cases b <;> simp_all [Scalar.identity, Scalar.number?, DateTime.same]

/-- Two spellings of one key are the same as the same keys. -/
theorem Scalar.same_congr {a b : Scalar} (h : a.same b = true) (key : Scalar) :
    a.same key = b.same key := by
  rw [Bool.eq_iff_iff, Scalar.same_iff, Scalar.same_iff, Scalar.same_iff.mp h]

theorem Scalar.same_comm (a b : Scalar) : a.same b = b.same a := by
  rw [Bool.eq_iff_iff, Scalar.same_iff, Scalar.same_iff, eq_comm]

namespace Mapping

/-! ### Distinct keys -/

/-- No key comes twice. -/
def Distinct (m : Mapping) : Prop := m.keys.Pairwise fun a b => a.same b = false

instance (m : Mapping) : Decidable m.Distinct := inferInstanceAs (Decidable (List.Pairwise _ _))

theorem Distinct.singleton (key : Scalar) (v : Value) : Distinct [(key, v)] :=
  List.pairwise_singleton _ key

/-- The first entry with the key counts. -/
theorem get?_cons (k : Scalar) (v : Value) (rest : Mapping) (key : Scalar) :
    get? ((k, v) :: rest) key = if k.same key then some v else get? rest key := rfl

/-- The first entry with the key is replaced, or else the value is put at the end. -/
theorem set_cons (k : Scalar) (w : Value) (rest : Mapping) (key : Scalar) (v : Value) :
    set ((k, w) :: rest) key v
      = if k.same key then (k, v) :: rest else (k, w) :: set rest key v := rfl

/-- Nothing stands at a key exactly when no key is the same. -/
theorem get?_eq_none_iff {m : Mapping} {key : Scalar} :
    get? m key = none ↔ ∀ k ∈ m.keys, k.same key = false := by
  induction m with
  | nil => simp [keys]
  | cons entry rest ih =>
    obtain ⟨k, v⟩ := entry
    rw [get?_cons]
    by_cases h : k.same key = true
    · simp [h, keys]
    · rw [if_neg h, ih]
      simp [keys, h]

/-- What stands at a key is the value of an entry. -/
theorem mem_of_get? {m : Mapping} {key : Scalar} {v : Value} (h : get? m key = some v) :
    ∃ entry ∈ m, entry.2 = v := by
  induction m with
  | nil => cases h
  | cons entry rest ih =>
    obtain ⟨k, w⟩ := entry
    rw [get?_cons] at h
    split at h
    · exact ⟨(k, w), by simp, Option.some.inj h⟩
    · obtain ⟨entry, hmem, hv⟩ := ih h
      exact ⟨entry, by simp [hmem], hv⟩

/-- Two spellings of one key find the same. -/
theorem get?_congr {a b : Scalar} (h : a.same b = true) (m : Mapping) : get? m a = get? m b := by
  induction m with
  | nil => rfl
  | cons entry rest ih =>
    obtain ⟨k, v⟩ := entry
    rw [get?_cons, get?_cons, ih, Scalar.same_comm k a, Scalar.same_comm k b,
      Scalar.same_congr h]

/-- What is set at a key is found there, and elsewhere nothing changes. -/
theorem get?_set (m : Mapping) (k : Scalar) (v : Value) (key : Scalar) :
    get? (set m k v) key = if k.same key then some v else get? m key := by
  induction m with
  | nil => rfl
  | cons entry rest ih =>
    obtain ⟨k', w⟩ := entry
    rw [set_cons]
    by_cases h : k'.same k = true
    · rw [if_pos h, get?_cons, get?_cons, Scalar.same_congr h]
      by_cases hk : k.same key = true
      · rw [if_pos hk, if_pos hk]
      · rw [if_neg hk, if_neg hk, if_neg hk]
    · rw [if_neg h, get?_cons, get?_cons, ih]
      by_cases hk : k.same key = true
      · have hk' : ¬k'.same key = true := by
          rwa [Scalar.same_comm, ← Scalar.same_congr hk, Scalar.same_comm]
        simp [hk, hk']
      · simp [hk]

/-- Setting keeps the keys, with a new one at the end. -/
theorem keys_set (m : Mapping) (k : Scalar) (v : Value) :
    keys (set m k v) = if (get? m k).isSome then keys m else keys m ++ [k] := by
  induction m with
  | nil => rfl
  | cons entry rest ih =>
    obtain ⟨k', w⟩ := entry
    rw [set_cons, get?_cons]
    by_cases h : k'.same k = true
    · rw [if_pos h, if_pos h]
      rfl
    · rw [if_neg h, if_neg h]
      show k' :: keys (set rest k v) = _
      rw [ih]
      split <;> rfl

/-- A new key goes to the end. -/
theorem set_of_get?_eq_none {m : Mapping} {k : Scalar} (h : get? m k = none) (v : Value) :
    set m k v = m ++ [(k, v)] := by
  induction m with
  | nil => rfl
  | cons entry rest ih =>
    obtain ⟨k', w⟩ := entry
    rw [get?_cons] at h
    by_cases hsame : k'.same k = true
    · rw [if_pos hsame] at h
      cases h
    · rw [if_neg hsame] at h
      rw [set_cons, if_neg hsame, ih h]
      rfl

/-- Setting a key repeats none. -/
theorem Distinct.set {m : Mapping} (h : m.Distinct) (k : Scalar) (v : Value) :
    (Mapping.set m k v).Distinct := by
  rw [Distinct, keys_set]
  split
  · exact h
  · next hnone =>
    have hnone : get? m k = none := by simpa using hnone
    rw [List.pairwise_append]
    refine ⟨h, List.pairwise_singleton _ _, ?_⟩
    intro a ha b hb
    obtain rfl := List.mem_singleton.mp hb
    exact get?_eq_none_iff.mp hnone a ha

/-- Entries in another order have their keys in another order. -/
theorem keys_perm {m n : Mapping} (h : m.Perm n) : m.keys.Perm n.keys := h.map _

theorem Distinct.of_keys_perm {m n : Mapping} (hm : m.Distinct) (h : m.keys.Perm n.keys) :
    n.Distinct := by
  refine (List.Perm.pairwise_iff ?_ h).mp hm
  intro a b hab
  rwa [Scalar.same_comm]

/-- What is found at a key does not depend on the order of the entries. -/
theorem Distinct.get?_eq_of_perm {m n : Mapping} (hm : m.Distinct) (h : m.Perm n) (key : Scalar) :
    get? m key = get? n key := by
  induction h with
  | nil => rfl
  | cons entry h ih =>
    obtain ⟨k, v⟩ := entry
    rw [get?_cons, get?_cons, ih (List.pairwise_cons.mp hm).2]
  | swap first second rest =>
    obtain ⟨j, v⟩ := first
    obtain ⟨k, w⟩ := second
    have hapart : k.same j = false := (List.pairwise_cons.mp hm).1 j List.mem_cons_self
    simp only [get?_cons]
    by_cases hk : k.same key = true
    · have hj : ¬j.same key = true := by
        rw [Scalar.same_comm, ← Scalar.same_congr hk, hapart]
        exact Bool.false_ne_true
      rw [if_pos hk, if_neg hj, if_pos hk]
    · rw [if_neg hk, if_neg hk]
  | trans h _ ih ih' => rw [ih hm, ih' (hm.of_keys_perm (keys_perm h))]

/-- A mapping without repeated keys is told by its keys in their order and by what is found at
them. -/
theorem Distinct.ext {m n : Mapping} (hm : m.Distinct) (hkeys : m.keys = n.keys)
    (hget : ∀ key ∈ m.keys, get? m key = get? n key) : m = n := by
  induction m generalizing n with
  | nil => exact (List.map_eq_nil_iff.mp hkeys.symm).symm
  | cons entry rest ih =>
    obtain ⟨k, v⟩ := entry
    match n with
    | [] => cases hkeys
    | (k', w) :: other =>
      obtain ⟨rfl, hrestKeys⟩ : k = k' ∧ keys rest = keys other := List.cons.inj hkeys
      obtain ⟨hk, hrest⟩ := List.pairwise_cons.mp hm
      have hsame : k.same k = true := Scalar.same_iff.mpr rfl
      have hv : v = w := by
        have h := hget k List.mem_cons_self
        rwa [get?_cons, get?_cons, if_pos hsame, if_pos hsame, Option.some.injEq] at h
      -- behind the first key all are other ones, so that what is found there is found in the rest
      have hrestGet : ∀ key ∈ keys rest, get? rest key = get? other key := by
        intro key hkey
        have h := hget key (List.mem_cons_of_mem _ hkey)
        rwa [get?_cons, get?_cons, hk key hkey] at h
      rw [hv, ih hrest hrestKeys hrestGet]

end Mapping

end QueryTemplates
