import QueryTemplates.Proofs.Query.Requirement

/-!
# When a query compiles

A query compiles exactly when all of its requirements are met, and otherwise fails with the first
one that is not, in the order in which they are looked at. Nothing else can go wrong: every operator
is known, every part is a query, and what reaches a builder has the right kind.

About `SPEC_FULL.md` §12 (lines 205–209).
-/

namespace QueryTemplates

/-- The failure is a text that cannot be filled or a number that is refused for its value. -/
def CompileError.IsUnmet (e : CompileError) : Prop :=
  ((∃ cause, e = .render cause) ∨ ∃ cause, e = .argument cause) ∧
    (e.category = .badValue ∨ e.category = .overflow)

/-- A text that cannot be filled is a requirement that is not met. -/
theorem isUnmet_of_fillText [Objects] {data : Value} {text : String} {e : CompileError}
    (h : fillText data text = .error e) : e.IsUnmet := by
  obtain ⟨cause, -, rfl⟩ := mapError_eq_error_iff.mp h
  refine ⟨.inl ⟨cause, rfl⟩, ?_⟩
  rw [CompileError.category, RenderError.category]
  split
  · exact .inr rfl
  · exact .inl rfl

theorem isUnmet_of_checkNumber {least : Int} {most : Value} {argument : Argument} {n : Number}
    {high : Bool} {e : CompileError} (hhigh : boundLe (.ofNumber n) most = .ok high)
    (h : checkNumber (.int least) most argument n = .error e) : e.IsUnmet := by
  rcases bind_eq_error_iff.mp h with h | ⟨_, -, h⟩
  · obtain ⟨cause, hcause, rfl⟩ := mapError_eq_error_iff.mp h
    exact ⟨.inr ⟨cause, rfl⟩, category_of_checkRange (boundLe_int_left n least) hhigh hcause⟩
  · cases h

/-- A requirement fails for the value of a text or a number, never for a kind. -/
theorem isUnmet_of_check [Objects] {data : Value} {r : Requirement} {e : CompileError}
    (h : r.check data = .error e) : e.IsUnmet := by
  have text {words : String} (h : (do let _ ← fillText data words) = .error e) : e.IsUnmet := by
    rcases bind_eq_error_iff.mp h with h | ⟨_, -, h⟩
    · exact isUnmet_of_fillText h
    · cases h
  cases r with
  | phrase words => exact text h
  | filled words => exact text h
  | similarity n => exact isUnmet_of_checkNumber (boundLe_int_right n 1) h
  | distance n => exact isUnmet_of_checkNumber (boundLe_unbounded n) h
  | factor n => exact isUnmet_of_checkNumber (boundLe_unbounded n) h

theorem checkAll_eq_ok_iff [Objects] {data : Value} {rs : List Requirement} :
    checkAll data rs = .ok () ↔ ∀ r ∈ rs, r.Met data := by
  rw [checkAll, forM_eq_ok_iff]
  simp only [check_eq_ok_iff]

/-- A query compiles exactly when its requirements are met, and then to its text. -/
theorem compile_eq_ok_iff [Objects] {q : Query} {data : Value} {s : String} :
    q.compile data = .ok s ↔
      (∀ r ∈ q.requirements, r.Met data) ∧ s = q.write (filledText data) := by
  rw [Query.compile_eq, bind_eq_ok_iff]
  constructor
  · rintro ⟨_, hall, hs⟩
    exact ⟨checkAll_eq_ok_iff.mp hall, (Except.ok.inj hs).symm⟩
  · rintro ⟨hall, rfl⟩
    exact ⟨(), checkAll_eq_ok_iff.mpr hall, rfl⟩

/-- A query fails exactly with the first of its requirements that is not met. -/
theorem compile_eq_error_iff [Objects] {q : Query} {data : Value} {e : CompileError} :
    q.compile data = .error e ↔
      ∃ before r behind, q.requirements = before ++ r :: behind ∧
        (∀ met ∈ before, met.Met data) ∧ r.check data = .error e := by
  have hfirst : q.compile data = .error e ↔ checkAll data q.requirements = .error e := by
    rw [Query.compile_eq]
    cases checkAll data q.requirements with
    | error e' =>
      rw [error_bind]
      constructor
      · intro h
        cases h
        rfl
      · intro h
        cases h
        rfl
    | ok _ => exact ⟨nofun, nofun⟩
  rw [hfirst, checkAll, forM_eq_error_iff]
  simp only [check_eq_ok_iff]

/-- A query, such as any that is read from a value, compiles exactly when its requirements are met.
If it fails, the failure is that of the first requirement which is not met. It is never an unknown
operator, something that is no query, or an argument of the wrong kind. -/
theorem compile_ok_or_first_unmet [Objects] (q : Query) (data : Value) :
    ((∃ s, q.compile data = .ok s) ↔ ∀ r ∈ q.requirements, r.Met data) ∧
      (∀ e, q.compile data = .error e ↔
        ∃ before r behind, q.requirements = before ++ r :: behind ∧
          (∀ met ∈ before, met.Met data) ∧ ¬r.Met data ∧ r.check data = .error e) ∧
      ∀ e, q.compile data = .error e →
        ((∃ cause, e = .render cause) ∨ ∃ cause, e = .argument cause) ∧
          e.category ∉ [.wrongType, .missingAttribute, .missingKey] := by
  refine ⟨?_, ?_, ?_⟩
  · constructor
    · rintro ⟨s, hs⟩
      exact (compile_eq_ok_iff.mp hs).1
    · intro h
      exact ⟨_, compile_eq_ok_iff.mpr ⟨h, rfl⟩⟩
  · intro e
    rw [compile_eq_error_iff]
    constructor
    · rintro ⟨before, r, behind, hsplit, hbefore, hr⟩
      have hunmet : ¬r.Met data := by
        rw [← check_eq_ok_iff, hr]
        exact nofun
      exact ⟨before, r, behind, hsplit, hbefore, hunmet, hr⟩
    · rintro ⟨before, r, behind, hsplit, hbefore, -, hr⟩
      exact ⟨before, r, behind, hsplit, hbefore, hr⟩
  · intro e he
    obtain ⟨_, r, _, -, -, hr⟩ := compile_eq_error_iff.mp he
    obtain ⟨hcause, hcategory⟩ := isUnmet_of_check hr
    refine ⟨hcause, ?_⟩
    rcases hcategory with h | h <;> rw [h] <;> decide

end QueryTemplates
