import Mathlib.Data.List.Forall2

/-!
# Outcomes in sequence

A computation that may fail goes on only after a success. These laws take such a sequence apart.
-/

namespace QueryTemplates

variable {ε ε' α β : Type}

@[simp] theorem ok_bind (a : α) (next : α → Except ε β) : Except.ok a >>= next = next a := rfl

@[simp] theorem error_bind (e : ε) (next : α → Except ε β) :
    Except.error e >>= next = Except.error e := rfl

/-- A sequence succeeds exactly when both of its steps do. -/
theorem bind_eq_ok_iff {first : Except ε α} {next : α → Except ε β} {b : β} :
    first >>= next = .ok b ↔ ∃ a, first = .ok a ∧ next a = .ok b := by
  cases first with
  | error e => simp
  | ok a => simp

/-- A sequence fails with its first step, or with the second one after a success. -/
theorem bind_eq_error_iff {first : Except ε α} {next : α → Except ε β} {e : ε} :
    first >>= next = .error e ↔
      first = .error e ∨ ∃ a, first = .ok a ∧ next a = .error e := by
  cases first with
  | error e => simp
  | ok a => simp

/-- An outcome with its value changed is a value exactly where it was one. -/
theorem map_eq_ok_iff {outcome : Except ε α} {f : α → β} {b : β} :
    outcome.map f = .ok b ↔ ∃ a, outcome = .ok a ∧ f a = b := by
  cases outcome with
  | error e => simp [Except.map]
  | ok a => simp [Except.map]

/-- What is told of errors makes no difference to success. -/
theorem mapError_eq_ok_iff {outcome : Except ε α} {f : ε → ε'} {a : α} :
    outcome.mapError f = .ok a ↔ outcome = .ok a := by
  cases outcome with
  | error e =>
    show Except.error (f e) = .ok a ↔ _
    simp
  | ok b =>
    show Except.ok b = .ok a ↔ _
    simp

/-- An error that is told otherwise comes from one. -/
theorem mapError_eq_error_iff {outcome : Except ε α} {f : ε → ε'} {e' : ε'} :
    outcome.mapError f = .error e' ↔ ∃ e, outcome = .error e ∧ f e = e' := by
  cases outcome with
  | error e =>
    show Except.error (f e) = .error e' ↔ _
    simp
  | ok b =>
    show Except.ok b = .error e' ↔ _
    simp

/-- A success of a computation that gives nothing. -/
theorem eq_ok_of_isOk {outcome : Except ε Unit} (h : outcome.isOk = true) : outcome = .ok () := by
  cases outcome with
  | error e => cases h
  | ok a => rfl

theorem exists_eq_error_of_isOk {outcome : Except ε α} (h : outcome.isOk = false) :
    ∃ e, outcome = .error e := by
  cases outcome with
  | error e => exact ⟨e, rfl⟩
  | ok a => cases h

theorem eq_ok_of_toOption {outcome : Except ε α} {a : α} (h : outcome.toOption = some a) :
    outcome = .ok a := by
  cases outcome with
  | error e => cases h
  | ok b =>
    obtain rfl := Option.some.inj h
    rfl

/-- A list of steps succeeds exactly when each step does. -/
theorem forM_eq_ok_iff {step : α → Except ε Unit} {xs : List α} :
    forM xs step = .ok () ↔ ∀ x ∈ xs, step x = .ok () := by
  induction xs with
  | nil => simp [pure, Except.pure]
  | cons x xs ih =>
    rw [List.forM_cons, bind_eq_ok_iff, List.forall_mem_cons]
    constructor
    · rintro ⟨_, hx, hxs⟩
      exact ⟨hx, ih.mp hxs⟩
    · rintro ⟨hx, hxs⟩
      exact ⟨(), hx, ih.mpr hxs⟩

/-- A list of steps fails with the first step that fails. -/
theorem forM_eq_error_iff {step : α → Except ε Unit} {xs : List α} {e : ε} :
    forM xs step = .error e ↔
      ∃ before x behind, xs = before ++ x :: behind ∧ (∀ y ∈ before, step y = .ok ()) ∧
        step x = .error e := by
  induction xs with
  | nil => simp [pure, Except.pure]
  | cons x xs ih =>
    rw [List.forM_cons, bind_eq_error_iff]
    constructor
    · rintro (hx | ⟨_, hx, h⟩)
      · exact ⟨[], x, xs, rfl, by simp, hx⟩
      · obtain ⟨before, y, behind, rfl, hbefore, hy⟩ := ih.mp h
        refine ⟨x :: before, y, behind, rfl, ?_, hy⟩
        rintro z (_ | ⟨_, hz⟩)
        · exact hx
        · exact hbefore z hz
    · rintro ⟨before, y, behind, hxs, hbefore, hy⟩
      cases before with
      | nil =>
        obtain ⟨rfl, rfl⟩ := List.cons.inj hxs
        exact .inl hy
      | cons z before =>
        obtain ⟨rfl, rfl⟩ := List.cons.inj hxs
        exact .inr ⟨(), hbefore x (by simp), ih.mpr
          ⟨before, y, behind, rfl, fun w hw => hbefore w (by simp [hw]), hy⟩⟩

section

variable {step : α → Except ε β} {xs : List α}

theorem exists_of_mem_of_forall₂ {related : α → β → Prop} {ys : List β}
    (h : List.Forall₂ related xs ys) {x : α} (hx : x ∈ xs) : ∃ y ∈ ys, related x y := by
  induction h with
  | nil => cases hx
  | cons hfirst _ ih =>
    rcases List.mem_cons.mp hx with rfl | hx
    · exact ⟨_, List.mem_cons_self, hfirst⟩
    · obtain ⟨y, hy, hrelated⟩ := ih hx
      exact ⟨y, List.mem_cons_of_mem _ hy, hrelated⟩

/-- What is related to each item can be chosen for all items. -/
theorem exists_forall₂_of_forall_mem {related : α → β → Prop}
    (h : ∀ x ∈ xs, ∃ y, related x y) : ∃ ys, List.Forall₂ related xs ys := by
  induction xs with
  | nil => exact ⟨[], .nil⟩
  | cons x xs ih =>
    obtain ⟨⟨y, hy⟩, hxs⟩ := List.forall_mem_cons.mp h
    obtain ⟨ys, hys⟩ := ih hxs
    exact ⟨y :: ys, .cons hy hys⟩

/-- The results of a step for each item are there when each step succeeds. -/
theorem mapM_eq_ok_iff {ys : List β} :
    xs.mapM step = .ok ys ↔ List.Forall₂ (fun x y => step x = .ok y) xs ys := by
  induction xs generalizing ys with
  | nil => simp [pure, Except.pure, eq_comm]
  | cons x xs ih =>
    rw [List.mapM_cons, bind_eq_ok_iff, List.forall₂_cons_left_iff]
    constructor
    · rintro ⟨y, hy, h⟩
      obtain ⟨rest, hrest, h⟩ := bind_eq_ok_iff.mp h
      exact ⟨y, rest, hy, ih.mp hrest, (Except.ok.inj h).symm⟩
    · rintro ⟨y, rest, hy, hrest, rfl⟩
      exact ⟨y, hy, bind_eq_ok_iff.mpr ⟨rest, ih.mpr hrest, rfl⟩⟩

/-- A step for each item fails with the first item whose step fails. -/
theorem mapM_eq_error_iff {e : ε} :
    xs.mapM step = .error e ↔
      ∃ before x behind, xs = before ++ x :: behind ∧ (∀ w ∈ before, ∃ y, step w = .ok y) ∧
        step x = .error e := by
  induction xs with
  | nil => simp [pure, Except.pure]
  | cons x xs ih =>
    rw [List.mapM_cons, bind_eq_error_iff]
    constructor
    · rintro (hx | ⟨y, hy, h⟩)
      · exact ⟨[], x, xs, rfl, by simp, hx⟩
      · rcases bind_eq_error_iff.mp h with h | ⟨_, -, h⟩
        · obtain ⟨before, z, behind, rfl, hbefore, hz⟩ := ih.mp h
          exact ⟨x :: before, z, behind, rfl, List.forall_mem_cons.mpr ⟨⟨y, hy⟩, hbefore⟩, hz⟩
        · cases h
    · rintro ⟨before, z, behind, hxs, hbefore, hz⟩
      cases before with
      | nil =>
        obtain ⟨rfl, rfl⟩ := List.cons.inj hxs
        exact .inl hz
      | cons w before =>
        obtain ⟨rfl, rfl⟩ := List.cons.inj hxs
        obtain ⟨⟨y, hy⟩, hbefore⟩ := List.forall_mem_cons.mp hbefore
        have hrest := ih.mpr ⟨before, z, behind, rfl, hbefore, hz⟩
        exact .inr ⟨y, hy, bind_eq_error_iff.mpr (.inl hrest)⟩

end

/-- What each step keeps is kept by all of them one after the other. -/
theorem foldlM_preserves {step : β → α → Except ε β} {xs : List α} {motive : β → Prop}
    (hstep : ∀ x ∈ xs, ∀ b b', motive b → step b x = .ok b' → motive b') {first last : β}
    (hfirst : motive first) (h : xs.foldlM step first = .ok last) : motive last := by
  induction xs generalizing first with
  | nil =>
    obtain rfl := Except.ok.inj h
    exact hfirst
  | cons x xs ih =>
    rw [List.foldlM_cons, bind_eq_ok_iff] at h
    obtain ⟨next, hnext, h⟩ := h
    obtain ⟨hx, hxs⟩ := List.forall_mem_cons.mp hstep
    exact ih hxs (hx first next hfirst hnext) h

/-- Steps succeed one after the other when each one succeeds where it comes. -/
theorem exists_of_mem_of_foldlM {step : β → α → Except ε β} {xs : List α} {x : α}
    {first last : β} (h : xs.foldlM step first = .ok last) (hx : x ∈ xs) :
    ∃ b b', step b x = .ok b' := by
  induction xs generalizing first with
  | nil => cases hx
  | cons y xs ih =>
    rw [List.foldlM_cons, bind_eq_ok_iff] at h
    obtain ⟨next, hnext, h⟩ := h
    rcases List.mem_cons.mp hx with rfl | hx
    · exact ⟨first, next, hnext⟩
    · exact ih h hx

/-- Steps that fail by their items alone, one after the other, fail with the first item whose step
fails. -/
theorem foldlM_eq_error_iff {step : β → α → Except ε β} {fails : α → ε → Prop}
    (hfails : ∀ b x e, step b x = .error e ↔ fails x e) {xs : List α} {first : β} {e : ε} :
    xs.foldlM step first = .error e ↔
      ∃ before x behind, xs = before ++ x :: behind ∧ (∀ w ∈ before, ∀ e, ¬fails w e) ∧
        fails x e := by
  induction xs generalizing first with
  | nil => simp [pure, Except.pure]
  | cons x xs ih =>
    rw [List.foldlM_cons, bind_eq_error_iff, hfails]
    constructor
    · rintro (hx | ⟨next, hnext, h⟩)
      · exact ⟨[], x, xs, rfl, by simp, hx⟩
      · obtain ⟨before, y, behind, rfl, hbefore, hy⟩ := ih.mp h
        have hx : ∀ e, ¬fails x e := fun e he => by
          rw [(hfails first x e).mpr he] at hnext
          cases hnext
        exact ⟨x :: before, y, behind, rfl, List.forall_mem_cons.mpr ⟨hx, hbefore⟩, hy⟩
    · rintro ⟨before, y, behind, hxs, hbefore, hy⟩
      cases before with
      | nil =>
        obtain ⟨rfl, rfl⟩ := List.cons.inj hxs
        exact .inl hy
      | cons w before =>
        obtain ⟨rfl, rfl⟩ := List.cons.inj hxs
        obtain ⟨hx, hbefore⟩ := List.forall_mem_cons.mp hbefore
        cases hnext : step first x with
        | error e => exact absurd ((hfails first x e).mp hnext) (hx e)
        | ok next => exact .inr ⟨next, rfl, ih.mpr ⟨before, y, behind, rfl, hbefore, hy⟩⟩

/-! ### What a computation may fail with -/

/-- A computation fails, if at all, with errors of one sort. -/
def FailsOnly (sort : ε → Prop) (outcome : Except ε α) : Prop := ∀ e, outcome = .error e → sort e

namespace FailsOnly

variable {sort : ε → Prop}

theorem ok (a : α) : FailsOnly sort (.ok a) := by
  intro e h
  cases h

/-- An error of the sort is allowed. -/
theorem error {e : ε} (h : sort e) : FailsOnly sort (.error e : Except ε α) := by
  intro e' h'
  cases h'
  exact h

/-- What fails in one sort of ways only fails in a wider one. -/
theorem mono {sort' : ε → Prop} {outcome : Except ε α} (h : FailsOnly sort outcome)
    (himp : ∀ e, sort e → sort' e) : FailsOnly sort' outcome :=
  fun e he => himp e (h e he)

/-- What comes behind a success fails with what that success lets it fail with. -/
theorem bind_of_ok {first : Except ε α} {next : α → Except ε β} (hfirst : FailsOnly sort first)
    (hnext : ∀ a, first = .ok a → FailsOnly sort (next a)) : FailsOnly sort (first >>= next) := by
  intro e h
  rcases bind_eq_error_iff.mp h with h | ⟨a, ha, h⟩
  · exact hfirst e h
  · exact hnext a ha e h

/-- A sequence fails as its parts do. -/
theorem bind {first : Except ε α} {next : α → Except ε β} (hfirst : FailsOnly sort first)
    (hnext : ∀ a, FailsOnly sort (next a)) : FailsOnly sort (first >>= next) :=
  hfirst.bind_of_ok fun a _ => hnext a

/-- What is told of errors is allowed if each of them is. -/
theorem mapError {sort' : ε' → Prop} {outcome : Except ε α} {f : ε → ε'}
    (h : FailsOnly sort outcome) (hsort : ∀ e, sort e → sort' (f e)) :
    FailsOnly sort' (outcome.mapError f) := by
  intro e' h'
  obtain ⟨e, he, rfl⟩ := mapError_eq_error_iff.mp h'
  exact hsort e (h e he)

theorem mapError_of_forall {sort' : ε' → Prop} {f : ε → ε'} (h : ∀ e, sort' (f e))
    (outcome : Except ε α) : FailsOnly sort' (outcome.mapError f) := by
  intro e' h'
  obtain ⟨e, -, rfl⟩ := mapError_eq_error_iff.mp h'
  exact h e

/-- What is made of a result adds no failures. -/
theorem map {outcome : Except ε α} (h : FailsOnly sort outcome) (f : α → β) :
    FailsOnly sort (f <$> outcome) := by
  cases outcome with
  | error e => exact error (h e rfl)
  | ok a => exact ok (f a)

/-- A loop fails as its steps do. -/
theorem foldlM {step : β → α → Except ε β} (h : ∀ b a, FailsOnly sort (step b a)) {first : β}
    {xs : List α} : FailsOnly sort (xs.foldlM step first) := by
  induction xs generalizing first with
  | nil => exact ok first
  | cons x xs ih =>
    rw [List.foldlM_cons]
    exact (h first x).bind fun next => ih

end FailsOnly

/-- A computation fails with an error of one sort. -/
def FailsWith (sort : ε → Prop) (outcome : Except ε α) : Prop := ∃ e, outcome = .error e ∧ sort e

section

variable {sort : ε → Prop}

theorem not_failsWith_ok (a : α) : ¬FailsWith sort (.ok a) := by
  rintro ⟨e, h, -⟩
  cases h

theorem not_failsWith_pure (a : α) : ¬FailsWith sort (pure a : Except ε α) := not_failsWith_ok a

/-- An error fails with a sort exactly when it is of that sort. -/
theorem failsWith_error_iff {e : ε} : FailsWith sort (.error e : Except ε α) ↔ sort e := by
  simp [FailsWith]

/-- A computation that fails, if at all, with errors of other sorts. -/
theorem FailsOnly.not_failsWith {outcome : Except ε α} (h : FailsOnly (¬sort ·) outcome) :
    ¬FailsWith sort outcome :=
  fun ⟨e, he, hsort⟩ => h e he hsort

/-- A sequence fails where its first step does, or behind it. -/
theorem failsWith_bind_iff {first : Except ε α} {next : α → Except ε β} :
    FailsWith sort (first >>= next) ↔
      FailsWith sort first ∨ ∃ a, first = .ok a ∧ FailsWith sort (next a) := by
  cases first with
  | error e => simp [failsWith_error_iff]
  | ok a => simp [not_failsWith_ok]

/-- A result that is put into its final form fails where it did before. -/
theorem failsWith_bind_pure_iff {first : Except ε α} {f : α → β} :
    (FailsWith sort do return f (← first)) ↔ FailsWith sort first := by
  cases first with
  | error e => exact failsWith_error_iff.trans failsWith_error_iff.symm
  | ok a => exact iff_of_false (not_failsWith_ok _) (not_failsWith_ok _)

/-- A check that throws, and what follows it. -/
theorem failsWith_check_iff {refused : Prop} [Decidable refused] {e : ε}
    {next : PUnit → Except ε α} :
    FailsWith sort (if refused then throw e >>= next else next ⟨⟩) ↔
      refused ∧ sort e ∨ ¬refused ∧ FailsWith sort (next ⟨⟩) := by
  have hthrow : (throw e >>= next : Except ε α) = .error e := rfl
  by_cases h : refused
  · simp [h, hthrow, failsWith_error_iff]
  · simp [h]

theorem failsWith_map_iff {outcome : Except ε α} {f : α → β} :
    FailsWith sort (f <$> outcome) ↔ FailsWith sort outcome := by
  cases outcome with
  | error e => exact failsWith_error_iff.trans failsWith_error_iff.symm
  | ok a => exact iff_of_false (not_failsWith_ok _) (not_failsWith_ok _)

theorem failsWith_mapError_iff {sort' : ε' → Prop} {outcome : Except ε α} {f : ε → ε'}
    (hsort : ∀ e, sort' (f e) ↔ sort e) :
    FailsWith sort' (outcome.mapError f) ↔ FailsWith sort outcome := by
  simp only [FailsWith, mapError_eq_error_iff]
  constructor
  · rintro ⟨_, ⟨e, he, rfl⟩, h⟩
    exact ⟨e, he, (hsort e).mp h⟩
  · rintro ⟨e, he, h⟩
    exact ⟨f e, ⟨e, he, rfl⟩, (hsort e).mpr h⟩

end

end QueryTemplates
