import QueryTemplates.Proofs.Outcome
import QueryTemplates.Value.Access

/-!
# Keys in increasing order

Scalars of one kind have an order with one another, such as all numbers or all texts. Keys can be
put in increasing order exactly when there is at most one of them or they are of one such kind. The
result holds the same keys; for texts it does not depend on the order in which they came.
-/

namespace QueryTemplates

/-- The kinds of scalars that have an order with one another. -/
inductive OrderKind where
  | number
  | text
  | bytes
  | day
  | time (hasOffset : Bool)
deriving DecidableEq

/-- The scalars that a scalar has an order with; null has one with none. -/
def Scalar.orderKind? : Scalar → Option OrderKind
  | .null => none
  | .bool _ | .int _ | .float _ => some .number
  | .str _ => some .text
  | .bytes _ => some .bytes
  | .date _ => some .day
  | .datetime t => some (.time t.offset.isSome)

/-- There is at most one key, or all of them have an order with one another. -/
def Sortable (keys : List Scalar) : Prop :=
  keys.length ≤ 1 ∨ ∃ kind, ∀ key ∈ keys, key.orderKind? = some kind

/-- Two scalars can be compared when they are of one kind. -/
theorem Scalar.exists_lt_iff {a b : Scalar} :
    (∃ less, a.lt b = .ok less) ↔ ∃ kind, a.orderKind? = some kind ∧ b.orderKind? = some kind := by
  cases a <;> cases b
  case datetime.datetime s t =>
    -- times are compared if both have an offset or neither has
    have hlt : Scalar.lt (.datetime s) (.datetime t)
        = if s.offset.isSome == t.offset.isSome then .ok (decide (s.instant < t.instant))
          else .error .mixedOffsets := rfl
    by_cases h : s.offset.isSome = t.offset.isSome
    · rw [hlt, if_pos (beq_iff_eq.mpr h)]
      exact iff_of_true ⟨_, rfl⟩ ⟨.time s.offset.isSome, rfl, by rw [orderKind?, h]⟩
    · rw [hlt, if_neg (by simpa using h)]
      refine iff_of_false nofun ?_
      rintro ⟨kind, hs, ht⟩
      rw [← hs] at ht
      exact h (by simpa [orderKind?, eq_comm] using ht)
  all_goals simp [Scalar.lt, Scalar.number?, orderKind?]

section

variable {key : Scalar} {keys others sorted : List Scalar}

/-- Keys with an order have it in any arrangement. -/
theorem Sortable.of_perm (h : Sortable keys) (hperm : keys.Perm others) : Sortable others := by
  rcases h with hlength | ⟨kind, hkind⟩
  · apply Or.inl
    rwa [← hperm.length_eq]
  · refine .inr ⟨kind, fun k hk => hkind k ?_⟩
    exact hperm.mem_iff.mpr hk

theorem Sortable.of_sublist (h : Sortable keys) (hsub : others.Sublist keys) : Sortable others := by
  rcases h with hlength | ⟨kind, hkind⟩
  · exact .inl (Nat.le_trans hsub.length_le hlength)
  · exact .inr ⟨kind, fun k hk => hkind k (hsub.subset hk)⟩

/-! ### Putting in one key -/

theorem insertSorted_perm (h : insertSorted key keys = .ok sorted) :
    sorted.Perm (key :: keys) := by
  induction keys generalizing sorted with
  | nil =>
    obtain rfl := Except.ok.inj h
    exact .refl _
  | cons k rest ih =>
    rw [insertSorted, bind_eq_ok_iff] at h
    obtain ⟨less, -, h⟩ := h
    cases less with
    | true =>
      obtain rfl := Except.ok.inj h
      exact .refl _
    | false =>
      obtain ⟨tail, htail, h⟩ := bind_eq_ok_iff.mp h
      obtain rfl := Except.ok.inj h
      exact ((ih htail).cons k).trans (.swap key k rest)

/-- A key is put among keys of its kind. -/
theorem exists_insertSorted {kind : OrderKind} (hkey : key.orderKind? = some kind)
    (hkeys : ∀ k ∈ keys, k.orderKind? = some kind) :
    ∃ sorted, insertSorted key keys = .ok sorted := by
  induction keys with
  | nil => exact ⟨[key], rfl⟩
  | cons k rest ih =>
    obtain ⟨hk, hrest⟩ := List.forall_mem_cons.mp hkeys
    obtain ⟨less, hless⟩ := Scalar.exists_lt_iff.mpr ⟨kind, hkey, hk⟩
    obtain ⟨tail, htail⟩ := ih hrest
    rw [insertSorted, hless, ok_bind]
    cases less with
    | true => exact ⟨key :: k :: rest, rfl⟩
    | false =>
      rw [htail]
      exact ⟨k :: tail, rfl⟩

/-- A key is compared with the first one at least, and so has to be of its kind. -/
theorem exists_insertSorted_iff (hkeys : Sortable keys) :
    (∃ sorted, insertSorted key keys = .ok sorted) ↔ Sortable (key :: keys) := by
  constructor
  · rintro ⟨sorted, h⟩
    cases keys with
    | nil => exact .inl (by simp)
    | cons k rest =>
      rw [insertSorted, bind_eq_ok_iff] at h
      obtain ⟨less, hless, -⟩ := h
      obtain ⟨kind, hkey, hk⟩ := Scalar.exists_lt_iff.mp ⟨less, hless⟩
      refine .inr ⟨kind, List.forall_mem_cons.mpr ⟨hkey, List.forall_mem_cons.mpr ⟨hk, ?_⟩⟩⟩
      rcases hkeys with hlength | ⟨kind', hkind⟩
      · have hrest : rest = [] := by simpa using hlength
        simp [hrest]
      · obtain ⟨hk', hrest⟩ := List.forall_mem_cons.mp hkind
        rw [hk] at hk'
        rwa [Option.some.inj hk']
  · rintro (hlength | ⟨kind, hkind⟩)
    · have hnil : keys = [] := by simpa using hlength
      exact ⟨[key], by rw [hnil, insertSorted]⟩
    · obtain ⟨hkey, hkeys⟩ := List.forall_mem_cons.mp hkind
      exact exists_insertSorted hkey hkeys

/-! ### Putting in all keys -/

theorem foldlM_insertSorted_perm {first : List Scalar}
    (h : keys.foldlM (fun sorted key => insertSorted key sorted) first = .ok sorted) :
    sorted.Perm (keys ++ first) := by
  induction keys generalizing first with
  | nil =>
    obtain rfl := Except.ok.inj h
    exact .refl _
  | cons key rest ih =>
    rw [List.foldlM_cons, bind_eq_ok_iff] at h
    obtain ⟨next, hnext, h⟩ := h
    have hrest : (rest ++ next).Perm (rest ++ key :: first) :=
      (insertSorted_perm hnext).append_left rest
    exact (ih h).trans (hrest.trans List.perm_middle)

/-- The keys in order are the keys. -/
theorem sortScalars_perm (h : sortScalars keys = .ok sorted) : sorted.Perm keys := by
  have hperm := foldlM_insertSorted_perm h
  rwa [List.append_nil] at hperm

/-- Keys can be inserted exactly when they have an order with those that are there. -/
theorem exists_foldlM_insertSorted_iff {first : List Scalar} (hfirst : Sortable first) :
    (∃ sorted, keys.foldlM (fun sorted key => insertSorted key sorted) first = .ok sorted) ↔
      Sortable (keys ++ first) := by
  induction keys generalizing first with
  | nil => exact iff_of_true ⟨first, rfl⟩ hfirst
  | cons key rest ih =>
    simp only [List.foldlM_cons, bind_eq_ok_iff]
    constructor
    · rintro ⟨sorted, next, hnext, h⟩
      have hperm := insertSorted_perm hnext
      have hsortable : Sortable next :=
        ((exists_insertSorted_iff hfirst).mp ⟨next, hnext⟩).of_perm hperm.symm
      have hall := (ih hsortable).mp ⟨sorted, h⟩
      exact hall.of_perm ((hperm.append_left rest).trans List.perm_middle)
    · intro h
      have hkey : Sortable (key :: first) :=
        h.of_sublist ((List.sublist_append_right rest first).cons_cons key)
      obtain ⟨next, hnext⟩ := (exists_insertSorted_iff hfirst).mpr hkey
      have hperm := insertSorted_perm hnext
      have hall : Sortable (rest ++ next) :=
        h.of_perm ((hperm.append_left rest).trans List.perm_middle).symm
      obtain ⟨sorted, hsorted⟩ := (ih (hkey.of_perm hperm.symm)).mpr hall
      exact ⟨sorted, next, hnext, hsorted⟩

/-- Keys can be put in order exactly when there is at most one or all are of one kind. -/
theorem exists_sortScalars_iff :
    (∃ sorted, sortScalars keys = .ok sorted) ↔ Sortable keys := by
  have h := @exists_foldlM_insertSorted_iff keys [] (.inl (Nat.zero_le 1))
  rwa [List.append_nil] at h

end

/-! ### Texts -/

/-- Both are texts, and the first is not the greater one. -/
def Scalar.TextLe (a b : Scalar) : Prop := ∃ s t, a = .str s ∧ b = .str t ∧ s ≤ t

/-- All keys are texts. -/
def AllTexts (keys : List Scalar) : Prop := ∀ key ∈ keys, ∃ s, key = .str s

/-- Texts that are not above one another are the same. -/
theorem Scalar.TextLe.antisymm {a b : Scalar} (hab : a.TextLe b) (hba : b.TextLe a) : a = b := by
  obtain ⟨s, t, rfl, rfl, hst⟩ := hab
  obtain ⟨_, _, ht, hs, hts⟩ := hba
  cases ht
  cases hs
  rw [String.le_antisymm hst hts]

/-- The order of texts is transitive. -/
theorem Scalar.TextLe.trans {a b c : Scalar} (hab : a.TextLe b) (hbc : b.TextLe c) :
    a.TextLe c := by
  obtain ⟨s, t, rfl, rfl, hst⟩ := hab
  obtain ⟨_, u, ht, rfl, htu⟩ := hbc
  cases ht
  exact ⟨s, u, rfl, rfl, String.le_trans hst htu⟩

section

variable {keys others sorted : List Scalar}

theorem AllTexts.of_perm (h : AllTexts keys) (hperm : keys.Perm others) : AllTexts others :=
  fun key hkey => h key (hperm.mem_iff.mpr hkey)

theorem AllTexts.filter (h : AllTexts keys) (p : Scalar → Bool) : AllTexts (keys.filter p) :=
  fun key hkey => h key (List.mem_of_mem_filter hkey)

theorem AllTexts.sortable (h : AllTexts keys) : Sortable keys := by
  refine .inr ⟨.text, fun key hkey => ?_⟩
  obtain ⟨s, rfl⟩ := h key hkey
  rfl

/-- A text that is put among increasing texts leaves them increasing. -/
theorem pairwise_insertSorted {s : String} (htexts : AllTexts keys)
    (hkeys : keys.Pairwise Scalar.TextLe) (h : insertSorted (.str s) keys = .ok sorted) :
    sorted.Pairwise Scalar.TextLe := by
  induction keys generalizing sorted with
  | nil =>
    obtain rfl := Except.ok.inj h
    exact List.pairwise_singleton _ _
  | cons k rest ih =>
    obtain ⟨⟨t, rfl⟩, hrest⟩ := List.forall_mem_cons.mp htexts
    obtain ⟨hle, hpairwise⟩ := List.pairwise_cons.mp hkeys
    rw [insertSorted] at h
    have hlt : Scalar.lt (.str s) (.str t) = .ok (decide (s < t)) := rfl
    rw [hlt, ok_bind] at h
    by_cases hst : s < t
    · rw [if_pos (decide_eq_true hst)] at h
      obtain rfl := Except.ok.inj h
      have hle' : s ≤ t := String.not_lt.mp (String.lt_asymm hst)
      have hhead : Scalar.TextLe (.str s) (.str t) := ⟨s, t, rfl, rfl, hle'⟩
      refine List.pairwise_cons.mpr ⟨fun k hk => ?_, hkeys⟩
      rcases List.mem_cons.mp hk with rfl | hk
      · exact hhead
      · exact hhead.trans (hle k hk)
    · rw [if_neg (mt of_decide_eq_true hst)] at h
      obtain ⟨tail, htail, h⟩ := bind_eq_ok_iff.mp h
      obtain rfl := Except.ok.inj h
      refine List.pairwise_cons.mpr ⟨fun k hk => ?_, ih hrest hpairwise htail⟩
      rcases List.mem_cons.mp ((insertSorted_perm htail).mem_iff.mp hk) with rfl | hk
      · exact ⟨t, s, rfl, rfl, String.not_lt.mp hst⟩
      · exact hle k hk

/-- Texts that are inserted one after the other are in order. -/
theorem pairwise_foldlM_insertSorted {first : List Scalar} (htexts : AllTexts (keys ++ first))
    (hfirst : first.Pairwise Scalar.TextLe)
    (h : keys.foldlM (fun sorted key => insertSorted key sorted) first = .ok sorted) :
    sorted.Pairwise Scalar.TextLe := by
  induction keys generalizing first with
  | nil =>
    obtain rfl := Except.ok.inj h
    exact hfirst
  | cons key rest ih =>
    rw [List.foldlM_cons, bind_eq_ok_iff] at h
    obtain ⟨next, hnext, h⟩ := h
    have hperm := (insertSorted_perm hnext).append_left rest
    have hnextTexts : AllTexts (rest ++ next) :=
      htexts.of_perm (hperm.trans List.perm_middle).symm
    obtain ⟨s, rfl⟩ := htexts key (by simp)
    have hfirstTexts : AllTexts first := fun k hk => htexts k (by simp [hk])
    exact ih hnextTexts (pairwise_insertSorted hfirstTexts hfirst hnext) h

/-- Texts in order are increasing. -/
theorem pairwise_sortScalars (htexts : AllTexts keys) (h : sortScalars keys = .ok sorted) :
    sorted.Pairwise Scalar.TextLe := by
  rw [← List.append_nil keys] at htexts
  exact pairwise_foldlM_insertSorted htexts .nil h

/-- Texts are put in the same order, in whatever order they come. -/
theorem sortScalars_eq_of_perm (htexts : AllTexts keys) (hperm : keys.Perm others) :
    sortScalars keys = sortScalars others := by
  have hothers := htexts.of_perm hperm
  obtain ⟨sorted, hsorted⟩ := exists_sortScalars_iff.mpr htexts.sortable
  obtain ⟨sorted', hsorted'⟩ := exists_sortScalars_iff.mpr hothers.sortable
  have hsame : sorted.Perm sorted' :=
    (sortScalars_perm hsorted).trans (hperm.trans (sortScalars_perm hsorted').symm)
  have heq : sorted = sorted' :=
    List.Perm.eq_of_pairwise (fun _ _ _ _ hab hba => hab.antisymm hba)
      (pairwise_sortScalars htexts hsorted) (pairwise_sortScalars hothers hsorted') hsame
  rw [hsorted, hsorted', heq]

end

/-! ### Lists of keys -/

/-- The keys can be shown in a list: they have an order, and none is an integer with too many
digits. -/
def Listable (keys : List Scalar) : Prop :=
  Sortable keys ∧ ∀ key ∈ keys, key.isLongInteger = false

/-- Keys can be listed exactly when they can be sorted and none is too long to be shown. -/
theorem listable_iff {keys : List Scalar} :
    Listable keys ↔
      ∃ sorted, sortScalars keys = .ok sorted ∧ sorted.any Scalar.isLongInteger = false := by
  constructor
  · rintro ⟨hsortable, hshort⟩
    obtain ⟨sorted, hsorted⟩ := exists_sortScalars_iff.mpr hsortable
    refine ⟨sorted, hsorted, List.any_eq_false.mpr fun key hkey => ?_⟩
    simp [hshort key ((sortScalars_perm hsorted).mem_iff.mp hkey)]
  · rintro ⟨sorted, hsorted, hshort⟩
    refine ⟨exists_sortScalars_iff.mp ⟨sorted, hsorted⟩, fun key hkey => ?_⟩
    have hmem := (sortScalars_perm hsorted).mem_iff.mpr hkey
    simpa using List.any_eq_false.mp hshort key hmem

/-- Texts can be listed. -/
theorem AllTexts.listable {keys : List Scalar} (h : AllTexts keys) : Listable keys := by
  refine ⟨h.sortable, fun key hkey => ?_⟩
  obtain ⟨s, rfl⟩ := h key hkey
  rfl

end QueryTemplates
