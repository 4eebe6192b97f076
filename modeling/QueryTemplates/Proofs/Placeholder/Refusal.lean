import QueryTemplates.Proofs.Placeholder.Layout
import QueryTemplates.Proofs.Placeholder.Render

/-!
# How filling a text fails

A text that cannot be filled from data is told as a bad value: a key or an index that is missing, a
value of another kind, a fault in the text itself all count as one. There is one way past this: an
integer that is out of the range of its layout is told as an overflow. Main statement:
`render_refuses_iff` says exactly when that happens.

About `SPEC_FULL.md` §11 (lines 202–203).
-/

namespace QueryTemplates

/-! ### Categories -/

/-- The fault is that a number is out of the range of its layout. -/
def FillError.IsRange (e : FillError) : Prop := e.category = .overflow

/-- What is told as a bad value when a text is filled. -/
def toldAsBadValue : List Category :=
  [.missingKey, .missingIndex, .missingAttribute, .wrongType, .badValue]

theorem AccessError.category_mem (e : AccessError) : e.category ∈ toldAsBadValue := by
  cases e with
  | refused how message =>
    cases how <;> simp [AccessError.category, StepRefusal.category, toldAsBadValue]
  | _ => simp [AccessError.category, toldAsBadValue]

theorem FormatError.category_mem {e : FormatError} (h : ¬e.IsRange) :
    e.category ∈ toldAsBadValue := by
  cases e <;> simp_all [FormatError.IsRange, FormatError.category, toldAsBadValue]

/-- Whatever is no range is told as a bad value. -/
theorem FillError.category_mem {e : FillError} (h : ¬e.IsRange) : e.category ∈ toldAsBadValue := by
  cases e with
  | access cause => exact cause.category_mem
  | format cause => exact FormatError.category_mem h
  | brace | name | conversion | tooDeep =>
    show Category.badValue ∈ toldAsBadValue
    decide

/-- No step is refused for a range. -/
theorem access_not_isRange (cause : AccessError) : ¬(FillError.access cause).IsRange := by
  intro h
  have hmem : Category.overflow ∈ toldAsBadValue := h ▸ cause.category_mem
  exact absurd hmem (by decide)

/-! ### Steps and conversions never fail with a range -/

theorem failsOnly_access {α : Type} (outcome : Except AccessError α) :
    FailsOnly (¬FillError.IsRange ·) (outcome.mapError .access) := by
  refine .mapError_of_forall (fun cause => ?_) _
  exact access_not_isRange cause

section

variable [Objects] {found : Reached} {data : Value}

/-- Whatever attributes there are, a step is refused for what it asks for and not for a range. -/
theorem failsOnly_follow (access : Access) : FailsOnly (¬·.IsRange) (access.follow found) := by
  unfold Access.follow
  split
  · exact failsOnly_access _
  · exact failsOnly_access _
  · exact failsOnly_access _
  · exact .error (by simp [FillError.IsRange, FillError.category])

/-- Looking up a name fails without a range. -/
theorem failsOnly_lookUp (name : FieldName) : FailsOnly (¬·.IsRange) (name.lookUp data) :=
  (failsOnly_access _).bind fun _ => .foldlM fun _ access => failsOnly_follow access

theorem failsOnly_convert (code : Option Char) : FailsOnly (¬·.IsRange) (convert found code) := by
  have hformat : ∀ e : FormatError, ¬e.IsRange → ¬(FillError.format e).IsRange := fun _ h => h
  unfold convert
  split
  · exact .ok _
  · exact .ok _
  · exact ((failsOnly_foundLiteral found).map _).mapError hformat
  · exact ((failsOnly_foundText found).map _).mapError hformat
  · exact ((failsOnly_foundLiteral found).map _).mapError hformat
  · exact .error (by simp [FillError.IsRange, FillError.category])

theorem failsOnly_value (field : Field) : FailsOnly (¬·.IsRange) (field.value data) := by
  refine .bind (.mapError_of_forall (fun cause => ?_) _) fun name =>
    (failsOnly_lookUp name).bind fun _ => failsOnly_convert _
  simp [FillError.IsRange, FillError.category]

end

/-! ### When a text is beyond a range -/

/-- Filling the segments meets an integer out of the range of its layout before any other fault;
specifications may nest `depth` levels. -/
inductive BeyondRange [Objects] (data : Value) : Nat → List Segment → Prop
  | literal {depth : Nat} {text : List Char} {rest : List Segment}
      (h : BeyondRange data depth rest) : BeyondRange data depth (.literal text :: rest)
  /-- The placeholder is filled and what stands behind it is beyond a range. -/
  | behind {depth : Nat} {field : Field} {rest : List Segment} {s : String}
      (hfilled : fillField depth data field = .ok s) (h : BeyondRange data depth rest) :
      BeyondRange data depth (.field field :: rest)
  /-- The integer that the placeholder shows is out of the range of its layout. -/
  | layout {depth : Nat} {field : Field} {rest : List Segment} {n : Int} {cs : List Char}
      {spec : FormatSpec} (hvalue : field.value data = .ok (.value (.int n)))
      (hspecification : field.specification depth data = .ok cs)
      (hread : FormatSpec.read .int .right 'd' cs = .ok spec) (h : spec.Exceeded n) :
      BeyondRange data depth (.field field :: rest)
  /-- A placeholder in the specification is beyond a range. -/
  | nested {depth : Nat} {field : Field} {rest : List Segment} {found : Reached}
      (hvalue : field.value data = .ok found) (hnested : field.nested = true)
      (h : BeyondRange data depth (segments field.spec)) :
      BeyondRange data (depth + 1) (.field field :: rest)

section

variable [Objects] {depth : Nat} {data : Value}

/-- A specification is out of range exactly when it nests and filling it is. -/
theorem specification_failsWith_iff {field : Field} :
    FailsWith (·.IsRange) (field.specification depth data) ↔
      field.nested = true ∧
        ∃ d, depth = d + 1 ∧ FailsWith (·.IsRange) (fillSegments d data (segments field.spec)) := by
  unfold Field.specification
  by_cases hnested : field.nested = true
  · rw [if_pos hnested]
    cases depth with
    | zero => simp [failsWith_error_iff, FillError.IsRange, FillError.category]
    | succ depth => simp [hnested, failsWith_map_iff]
  · rw [if_neg hnested]
    simp [hnested, not_failsWith_ok]

/-- A placeholder is out of range by its specification or by its layout. -/
theorem fillField_failsWith_iff {field : Field} :
    FailsWith (·.IsRange) (fillField depth data field) ↔
      ∃ found, field.value data = .ok found ∧
        (FailsWith (·.IsRange) (field.specification depth data) ∨
          ∃ cs, field.specification depth data = .ok cs ∧
            FailsWith (·.IsRange) (Found.format found cs)) := by
  have hformat : ∀ e : FormatError, (FillError.format e).IsRange ↔ e.IsRange := fun _ => .rfl
  rw [fillField_eq, failsWith_bind_iff, iff_false_intro (failsOnly_value field).not_failsWith,
    false_or]
  simp only [failsWith_bind_iff, failsWith_mapError_iff hformat]

/-- A text is out of range by its first placeholder, or behind it. -/
theorem fillSegments_field_failsWith_iff {field : Field} {rest : List Segment} :
    FailsWith (·.IsRange) (fillSegments depth data (.field field :: rest)) ↔
      FailsWith (·.IsRange) (fillField depth data field) ∨
        ∃ s, fillField depth data field = .ok s ∧
          FailsWith (·.IsRange) (fillSegments depth data rest) := by
  rw [fillSegments, failsWith_bind_iff]
  simp only [failsWith_bind_pure_iff]

/-- Filling fails with a range exactly when it meets one first. -/
theorem fillSegments_failsWith_iff {segs : List Segment} :
    FailsWith (·.IsRange) (fillSegments depth data segs) ↔ BeyondRange data depth segs := by
  constructor
  · -- the recursion of filling: along the segments, and into the specifications
    induction depth using Nat.strong_induction_on generalizing segs with
    | _ depth hdepth =>
      intro h
      induction segs with
      | nil =>
        rw [fillSegments] at h
        exact absurd h (not_failsWith_ok _)
      | cons segment rest ih =>
        cases segment with
        | literal text =>
          rw [fillSegments, failsWith_bind_pure_iff] at h
          exact .literal (ih h)
        | malformed cause =>
          rw [fillSegments, failsWith_error_iff] at h
          cases h
        | field field =>
          rcases fillSegments_field_failsWith_iff.mp h with h | ⟨s, hs, h⟩
          · obtain ⟨v, hv, h | ⟨cs, hcs, h⟩⟩ := fillField_failsWith_iff.mp h
            · obtain ⟨hnested, d, rfl, hspec⟩ := specification_failsWith_iff.mp h
              exact .nested hv hnested (hdepth d (Nat.lt_succ_self d) hspec)
            · obtain ⟨n, spec, rfl, hspec, h⟩ := format_failsWith_iff.mp h
              exact .layout hv hcs hspec h
          · exact .behind hs (ih h)
  · intro h
    induction h with
    | literal _ ih =>
      rw [fillSegments, failsWith_bind_pure_iff]
      exact ih
    | behind hs _ ih => exact fillSegments_field_failsWith_iff.mpr (.inr ⟨_, hs, ih⟩)
    | layout hv hcs hspec h =>
      apply fillSegments_field_failsWith_iff.mpr
      refine .inl (fillField_failsWith_iff.mpr ⟨_, hv, .inr ⟨_, hcs, ?_⟩⟩)
      exact format_failsWith_iff.mpr ⟨_, _, rfl, hspec, h⟩
    | nested hv hnested _ ih =>
      apply fillSegments_field_failsWith_iff.mpr
      refine .inl (fillField_failsWith_iff.mpr ⟨_, hv, .inl ?_⟩)
      exact specification_failsWith_iff.mpr ⟨hnested, _, rfl, ih⟩

end

/-! ### Rendering -/

/-- A failure is told as a bad value exactly when it is no matter of a range. -/
theorem category_eq_badValue_iff {e : RenderError} : e.category = .badValue ↔ ¬e.cause.IsRange := by
  rw [RenderError.category, FillError.IsRange]
  split <;> simp_all

/-- A text that cannot be rendered is told as a bad value, whatever the cause is, except where an
integer is out of the range of its layout: that is told as an overflow. -/
theorem render_refuses_iff [Objects] (text : String) (data : Value) :
    (∀ e, render (.str text) data = .error e →
      e.category = .badValue ∧ e.cause.category ∈ toldAsBadValue ∨
        e.category = .overflow ∧ e.cause.category = .overflow) ∧
    ((∃ e, render (.str text) data = .error e ∧ e.category ≠ .badValue) ↔
      BeyondRange data 1 (segments text.toList)) := by
  have hrender : render (.str text) data = (fill text data).mapError (⟨.str text, ·⟩) := rfl
  constructor
  · intro e _
    by_cases h : e.cause.IsRange
    · right
      exact ⟨by rw [RenderError.category, h], h⟩
    · left
      exact ⟨category_eq_badValue_iff.mpr h, FillError.category_mem h⟩
  · have hfill : FailsWith (·.category ≠ .badValue) (render (.str text) data)
        ↔ FailsWith (·.IsRange) (fill text data) := by
      rw [hrender]
      exact failsWith_mapError_iff fun e => category_eq_badValue_iff.not.trans not_not
    exact hfill.trans fillSegments_failsWith_iff

/-- The code of the layout comes from the data, and what stands in front is looked up first. -/
theorem render_refuses_code_in_data :
    (∃ e, render (.str "\x7bx:\x7bcode\x7d\x7d")
        (.map [(.str "x", .int 0x110000), (.str "code", .str "c")]) = .error e ∧
      e.category ≠ .badValue) ∧
    ¬BeyondRange (.map [(.str "x", .int 0x110000), (.str "code", .str "c")]) 1
      (segments "\x7by\x7d\x7bx:\x7bcode\x7d\x7d".toList) := by
  have hmissing : render (.str "\x7by\x7d\x7bx:\x7bcode\x7d\x7d")
        (.map [(.str "x", .int 0x110000), (.str "code", .str "c")])
      = .error ⟨.str "\x7by\x7d\x7bx:\x7bcode\x7d\x7d", .access (.noKey (.str "y"))⟩ := by cbv
  constructor
  · refine (render_refuses_iff _ _).2.mpr ?_
    let field : Field := ⟨['x'], none, "\x7bcode\x7d".toList, true⟩
    have hsegments : segments "\x7bx:\x7bcode\x7d\x7d".toList
        = [.literal [], .field field, .literal []] := by cbv
    have hvalue : field.value (.map [(.str "x", .int 0x110000), (.str "code", .str "c")])
        = .ok (.value (.int 0x110000)) := by cbv
    have hcode : field.specification 1
        (.map [(.str "x", .int 0x110000), (.str "code", .str "c")]) = .ok ['c'] := by cbv
    rw [hsegments]
    refine .literal (.layout hvalue hcode rfl ?_)
    exact .inl ⟨⟨rfl, rfl, rfl, rfl, rfl⟩, .inr (by decide)⟩
  · intro h
    obtain ⟨e, he, hcategory⟩ := (render_refuses_iff _ _).2.mpr h
    rw [hmissing] at he
    cases he
    exact hcategory rfl

/-- Not every text that cannot be rendered is told as a bad value. -/
theorem character_out_of_range : ¬∀ (text : String) (entries : Mapping) (e : RenderError),
    render (.str text) (.map entries) = .error e → e.category = .badValue := by
  intro h
  have hfill : fill "\x7bx:c\x7d" (.map [(.str "x", .int 0x110000)])
      = .error (.format .noCharacter) := by
    have hsegments : segments "\x7bx:c\x7d".toList
        = [.literal [], .field ⟨['x'], none, ['c'], false⟩, .literal []] := by cbv
    have hvalue : Field.value (.map [(.str "x", .int 0x110000)]) ⟨['x'], none, ['c'], false⟩
        = .ok (.value (.int 0x110000)) := by cbv
    rw [fill, hsegments, fillSegments, fillSegments, fillField_eq, hvalue]
    rfl
  have herror : render (.str "\x7bx:c\x7d") (.map [(.str "x", .int 0x110000)])
      = .error ⟨.str "\x7bx:c\x7d", .format .noCharacter⟩ := by
    rw [render, hfill]
    rfl
  exact absurd (h _ _ _ herror) (by decide)

end QueryTemplates
