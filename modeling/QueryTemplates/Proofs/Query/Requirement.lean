import QueryTemplates.Proofs.Number.Range
import QueryTemplates.Query.Node

/-!
# What a query requires

Compiling a query asks two things: that its texts can be filled from the data, and that its numbers
lie within their bounds. `Query.requirements` lists these in the order in which they are looked at,
and `Query.write` is the text that results when all of them are met. The main statement,
`compile_eq`, says that compiling is exactly this: the requirements one after the other, and then
the text.

About `SPEC_FULL.md` §4.1 (lines 52–61) and §12 (lines 205–209).
-/

namespace QueryTemplates

/-- What a query asks for when it is compiled. -/
inductive Requirement where
  /-- The text of a term can be filled. -/
  | phrase (words : String)
  /-- Any other text can be filled. -/
  | filled (words : String)
  /-- A similarity lies within its bounds. -/
  | similarity (value : Number)
  /-- A distance lies within its bounds. -/
  | distance (value : Number)
  /-- A factor lies within its bounds. -/
  | factor (value : Number)

/-- Fills a text of a query. -/
def fillText [Objects] (data : Value) (text : String) : Except CompileError String :=
  (render (.str text) data).mapError .render

/-- What a text becomes when it can be filled. -/
def filledText [Objects] (data : Value) (text : String) : String :=
  (render (.str text) data).toOption.getD ""

/-- Asks whether a number lies between two bounds. -/
def checkNumber (least most : Value) (argument : Argument) (n : Number) :
    Except CompileError Unit := do
  let _ ← (checkRange least most argument (.ofNumber n)).mapError .argument

namespace Requirement

/-- Asks whether a requirement is met. -/
def check [Objects] (data : Value) : Requirement → Except CompileError Unit
  | .phrase words => do let _ ← fillText data words
  | .filled words => do let _ ← fillText data words
  | .similarity n => checkNumber (.int 0) (.int 1) (.at "similarity" 2) n
  | .distance n => checkNumber (.int 0) Builder.unbounded (.at "distance" 3) n
  | .factor n => checkNumber (.int 1) Builder.unbounded (.at "factor" 2) n

/-- The requirement is met. -/
def Met [Objects] (data : Value) : Requirement → Prop
  | .phrase words => ∃ s, render (.str words) data = .ok s
  | .filled words => ∃ s, render (.str words) data = .ok s
  | .similarity n => n.Within 0 1
  | .distance n => n.Within 0 greatestSafe
  | .factor n => n.Within 1 greatestSafe

end Requirement

namespace Query

mutual

/-- The requirements of a query in the order in which they are looked at. -/
def requirements : Query → List Requirement
  | .term text => [.phrase text]
  | .raw text => [.filled text]
  | .field name body => .filled name :: body.requirements
  | .boolean _ children => requirementsAll children
  | .group children => requirementsAll children
  | .range start stop _ _ => [.filled start, .filled stop]
  | .fuzzy body none => body.requirements
  | .fuzzy body (some similarity) => body.requirements ++ [.similarity similarity]
  | .proximity first second distance => [.filled first, .filled second, .distance distance]
  | .boost body factor => body.requirements ++ [.factor factor]
  | .required body => body.requirements

/-- The requirements of queries from left to right. -/
def requirementsAll : List Query → List Requirement
  | [] => []
  | q :: rest => q.requirements ++ requirementsAll rest

end

mutual

/-- The query as it is written when `fill` tells what becomes of its texts. -/
def write (fill : String → String) : Query → String
  | .term text => Fragment.term (fill text)
  | .raw text => fill text
  | .field name body => Fragment.field (fill name) (body.write fill)
  | .boolean op children => op.joiner.write (writeAll fill children)
  | .group children => Fragment.group.write (writeAll fill children)
  | .range start stop includeStart includeStop =>
    Fragment.range (fill start) (fill stop) includeStart includeStop
  | .fuzzy body similarity => Fragment.fuzzy (body.write fill) similarity
  | .proximity first second distance => Fragment.proximity (fill first) (fill second) distance
  | .boost body factor => Fragment.boost (body.write fill) factor
  | .required body => Fragment.required (body.write fill)

/-- Queries as they are written. -/
def writeAll (fill : String → String) : List Query → List String
  | [] => []
  | q :: rest => q.write fill :: writeAll fill rest

end

/-- Children require what each of them does, in their order. -/
theorem requirementsAll_eq_flatMap (qs : List Query) :
    requirementsAll qs = qs.flatMap requirements := by
  induction qs with
  | nil => rfl
  | cons q rest ih => rw [requirementsAll, ih, List.flatMap_cons]

/-- Children are written one by one. -/
theorem writeAll_eq_map (fill : String → String) (qs : List Query) :
    writeAll fill qs = qs.map (write fill) := by
  induction qs with
  | nil => rfl
  | cons q rest ih => rw [writeAll, ih, List.map_cons]

end Query

/-! ### Single requirements -/

/-- A text that can be filled is filled with that. -/
theorem filledText_of_ok [Objects] {data : Value} {text words : String}
    (h : render (.str text) data = .ok words) : filledText data text = words := by
  rw [filledText, h]
  rfl

/-- Filling succeeds exactly when rendering does. -/
theorem fillText_eq_ok_iff [Objects] {data : Value} {text words : String} :
    fillText data text = .ok words ↔ render (.str text) data = .ok words := by
  rw [fillText, mapError_eq_ok_iff]

/-- Behind a text that could be filled, what it became is known. -/
theorem bind_fillText [Objects] {α : Type} (data : Value) (text : String)
    (next : String → Except CompileError α) :
    fillText data text >>= next = fillText data text >>= fun _ => next (filledText data text) := by
  cases h : fillText data text with
  | error e => rfl
  | ok words => rw [filledText_of_ok (fillText_eq_ok_iff.mp h), ok_bind, ok_bind]

theorem check_filled_eq_ok_iff [Objects] {data : Value} {text : String} :
    (Requirement.filled text).check data = .ok () ↔ ∃ s, render (.str text) data = .ok s := by
  rw [Requirement.check, bind_eq_ok_iff]
  constructor
  · rintro ⟨s, hs, -⟩
    exact ⟨s, fillText_eq_ok_iff.mp hs⟩
  · rintro ⟨s, hs⟩
    exact ⟨s, fillText_eq_ok_iff.mpr hs, rfl⟩

/-- A number passes exactly when its range lets it pass. -/
theorem checkNumber_eq_ok_iff {least most : Value} {argument : Argument} {n : Number} :
    checkNumber least most argument n = .ok () ↔
      ∃ m, checkRange least most argument (.ofNumber n) = .ok m := by
  rw [checkNumber, bind_eq_ok_iff]
  constructor
  · rintro ⟨m, hm, -⟩
    exact ⟨m, mapError_eq_ok_iff.mp hm⟩
  · rintro ⟨m, hm⟩
    exact ⟨m, mapError_eq_ok_iff.mpr hm, rfl⟩

section

variable {argument : Argument} {n m : Number}

/-- A similarity lies between zero and one. -/
theorem similarity_eq_ok_iff :
    checkRange (.int 0) (.int 1) argument (.ofNumber n) = .ok m ↔ m = n ∧ n.Within 0 1 :=
  checkRange_int_eq_ok_iff argument n (by decide) (by decide)

/-- A distance is a safe number that is not negative. -/
theorem distance_eq_ok_iff :
    checkRange (.int 0) Builder.unbounded argument (.ofNumber n) = .ok m ↔
      m = n ∧ n.Within 0 greatestSafe :=
  checkRange_unbounded_eq_ok_iff argument n (by decide)

/-- A factor is a safe number from one on. -/
theorem factor_eq_ok_iff :
    checkRange (.int 1) Builder.unbounded argument (.ofNumber n) = .ok m ↔
      m = n ∧ n.Within 1 greatestSafe :=
  checkRange_unbounded_eq_ok_iff argument n (by decide)

end

theorem ofNumber_ne_null (n : Number) : Value.ofNumber n ≠ .null := by
  cases n <;> exact nofun

/-- A requirement is met exactly when the check for it succeeds. -/
theorem check_eq_ok_iff [Objects] {data : Value} {r : Requirement} :
    r.check data = .ok () ↔ r.Met data := by
  cases r with
  | phrase text => exact check_filled_eq_ok_iff
  | filled text => exact check_filled_eq_ok_iff
  | similarity n =>
    rw [Requirement.check, checkNumber_eq_ok_iff]
    simp [similarity_eq_ok_iff, Requirement.Met]
  | distance n =>
    rw [Requirement.check, checkNumber_eq_ok_iff]
    simp [distance_eq_ok_iff, Requirement.Met]
  | factor n =>
    rw [Requirement.check, checkNumber_eq_ok_iff]
    simp [factor_eq_ok_iff, Requirement.Met]

/-- Behind a number that was accepted, the number is the one that was asked about. -/
theorem bind_checkRange {α : Type} {least most : Value} {argument : Argument} {n : Number}
    (h : ∀ m, checkRange least most argument (.ofNumber n) = .ok m → m = n)
    (next : Number → α) :
    (do let m ← checkRange least most argument (.ofNumber n)
        return next m : Except ArgumentError α).mapError CompileError.argument
      = (do checkNumber least most argument n
            return next n) := by
  unfold checkNumber
  cases hr : checkRange least most argument (.ofNumber n) with
  | error e => rfl
  | ok m =>
    rw [h m hr]
    rfl

/-- The requirements one after the other; the first that is not met is the outcome. -/
def checkAll [Objects] (data : Value) (requirements : List Requirement) :
    Except CompileError Unit :=
  forM requirements (Requirement.check data)

theorem checkAll_nil [Objects] (data : Value) : checkAll data [] = .ok () := rfl

theorem checkAll_cons [Objects] (data : Value) (r : Requirement) (rest : List Requirement) :
    checkAll data (r :: rest) = (do r.check data; checkAll data rest) := by
  rw [checkAll, List.forM_cons]
  rfl

/-- Requirements in two parts are checked one part after the other. -/
theorem checkAll_append [Objects] (data : Value) (rs ss : List Requirement) :
    checkAll data (rs ++ ss) = (do checkAll data rs; checkAll data ss) := by
  rw [checkAll, List.forM_append]
  rfl

/-! ### Compiling is checking and writing -/

theorem Operator.ofValue_word (op : Operator) : Operator.ofValue (.str op.word) = .ok op := by
  cases op <;> rfl

namespace Query

variable (data : Value)

/-- If each child is checked and then written, so are all of them. -/
theorem compileAll_toNodes [Objects] {children : List Query}
    (h : ∀ q ∈ children, q.compile data = (do
      checkAll data q.requirements
      return q.write (filledText data))) :
    Node.compileAll data (toNodes children) = (do
      checkAll data (requirementsAll children)
      return writeAll (filledText data) children) := by
  induction children with
  | nil => rw [toNodes, Node.compileAll_nil]; rfl
  | cons q rest ih =>
    have hq : q.toNode.compile data = _ := h q (by simp)
    rw [toNodes, Node.compileAll_cons, requirementsAll, checkAll_append, hq,
      ih fun q hq => h q (by simp [hq])]
    simp [writeAll]

/-- To compile a query is to check its requirements and then to write it. -/
theorem compile_eq [Objects] (q : Query) :
    q.compile data = (do
      checkAll data q.requirements
      return q.write (filledText data)) := by
  induction q using Query.induct with
  | term text =>
    rw [compile, toNode, Node.compile_term]
    show fillText data text >>= _ = _
    rw [bind_fillText, requirements, checkAll_cons, checkAll_nil, Requirement.check]
    cases fillText data text <;> rfl
  | raw text =>
    rw [compile, toNode, Node.compile_raw]
    show fillText data text = _
    rw [← bind_pure (fillText data text), bind_fillText, requirements, checkAll_cons, checkAll_nil,
      Requirement.check]
    cases fillText data text <;> rfl
  | field name body ih =>
    rw [compile, toNode, Node.compile_field]
    show fillText data name >>= (fun name => body.compile data >>= _) = _
    rw [bind_fillText, requirements, checkAll_cons, Requirement.check, ih]
    cases fillText data name with
    | error e => rfl
    | ok s => cases checkAll data body.requirements <;> rfl
  | boolean op children ih =>
    rw [compile, toNode, Node.compile_boolean, Operator.ofValue_word, ok_bind,
      compileAll_toNodes data ih, requirements]
    cases checkAll data (requirementsAll children) <;> rfl
  | group children ih =>
    rw [compile, toNode, Node.compile_group, compileAll_toNodes data ih, requirements]
    cases checkAll data (requirementsAll children) <;> rfl
  | range start stop includeStart includeStop =>
    rw [compile, toNode, Node.compile_range]
    show fillText data start >>= (fun start => fillText data stop >>= _) = _
    rw [bind_fillText, requirements, checkAll_cons, checkAll_cons, checkAll_nil, Requirement.check,
      Requirement.check]
    cases fillText data start with
    | error e => rfl
    | ok s =>
      rw [ok_bind, bind_fillText]
      cases fillText data stop <;> rfl
  | fuzzy body similarity ih =>
    rw [compile, toNode, Node.compile_fuzzy]
    show body.compile data >>= _ = _
    rw [ih]
    cases similarity with
    | none =>
      rw [requirements]
      cases checkAll data body.requirements <;> rfl
    | some n =>
      rw [requirements, checkAll_append, checkAll_cons, checkAll_nil, Requirement.check]
      cases checkAll data body.requirements with
      | error e => rfl
      | ok _ =>
        rw [ok_bind]
        show (Builder.fuzzy _ (.ofNumber n)).mapError _ = _
        rw [Builder.fuzzy_of_ne_null _ (ofNumber_ne_null n),
          bind_checkRange (fun m h => (similarity_eq_ok_iff.mp h).1)]
        cases checkNumber _ _ _ n <;> rfl
  | proximity first second distance =>
    rw [compile, toNode, Node.compile_proximity]
    show fillText data first >>= (fun first => fillText data second >>= _) = _
    rw [bind_fillText, requirements, checkAll_cons, checkAll_cons, checkAll_cons, checkAll_nil]
    simp only [Requirement.check]
    cases fillText data first with
    | error e => rfl
    | ok s =>
      rw [ok_bind, bind_fillText]
      cases fillText data second with
      | error e => rfl
      | ok t =>
        rw [ok_bind, Builder.proximity_str,
          bind_checkRange (fun m h => (distance_eq_ok_iff.mp h).1)]
        cases checkNumber _ _ _ distance <;> rfl
  | boost body factor ih =>
    rw [compile, toNode, Node.compile_boost]
    show body.compile data >>= _ = _
    rw [ih, requirements, checkAll_append, checkAll_cons, checkAll_nil, Requirement.check]
    cases checkAll data body.requirements with
    | error e => rfl
    | ok _ =>
      rw [ok_bind]
      show (Builder.boost _ (.ofNumber factor)).mapError _ = _
      rw [Builder.boost_str,
        bind_checkRange (fun m h => (factor_eq_ok_iff.mp h).1)]
      cases checkNumber _ _ _ factor <;> rfl
  | required body ih =>
    rw [compile, toNode, Node.compile_required]
    show body.compile data >>= _ = _
    rw [ih, requirements]
    cases checkAll data body.requirements <;> rfl

end Query

end QueryTemplates
