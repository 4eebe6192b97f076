import QueryTemplates.Proofs.Placeholder.Piece
import QueryTemplates.Query.Node

/-!
# Parts in their place

What a node is compiled to depends on each of its parts through nothing but the outcome of that
part. So a part may be replaced by its own fragment, taken as it is: a raw node whose text is the
fragment with every brace doubled becomes the fragment again. Main statement: `compile_replaced`.

About `SPEC_FULL.md` §12 (lines 205–209).
-/

namespace QueryTemplates

namespace Node

/-- A node with a hole in the place of one of its parts, however deep that is. -/
inductive Context where
  | hole
  | field (name : Value) (body : Context)
  | boolean (operator : Value) (before : List Node) (child : Context) (behind : List Node)
  | group (before : List Node) (child : Context) (behind : List Node)
  | fuzzy (body : Context) (similarity : Value)
  | boost (body : Context) (factor : Value)
  | required (body : Context)

/-- The node that results when a part is put into the hole. -/
def Context.fill (part : Node) : Context → Node
  | .hole => part
  | .field name body => .field name (body.fill part)
  | .boolean operator before child behind =>
    .boolean operator (before ++ child.fill part :: behind)
  | .group before child behind => .group (before ++ child.fill part :: behind)
  | .fuzzy body similarity => .fuzzy (body.fill part) similarity
  | .boost body factor => .boost (body.fill part) factor
  | .required body => .required (body.fill part)

/-- The raw node that stands for a fragment: every brace of the fragment is doubled. -/
def verbatim (fragment : String) : Node :=
  .raw (.str (String.ofList (Piece.doubled fragment.toList)))

variable {data : Value}

/-- A fragment with its braces doubled becomes the fragment, over any data. -/
theorem compile_verbatim [Objects] (fragment : String) :
    (verbatim fragment).compile data = .ok fragment := by
  have htemplate : Piece.template [.literal fragment]
      = String.ofList (Piece.doubled fragment.toList) := by
    simp [Piece.template, Piece.written]
  have hfill : fill (Piece.template [.literal fragment]) data = .ok fragment := by
    rw [Piece.fill_template]
    simp [Piece.fill, pure, Except.pure]
  rw [verbatim, compile_raw, ← htemplate, render, hfill]
  rfl

section

variable {part part' : Node}

/-- The children before and behind a part are compiled alike, whatever stands between them. -/
theorem compileAll_append_cons_congr [Objects] (h : part.compile data = part'.compile data)
    (before behind : List Node) :
    compileAll data (before ++ part :: behind) = compileAll data (before ++ part' :: behind) := by
  induction before with
  | nil => rw [List.nil_append, List.nil_append, compileAll_cons, compileAll_cons, h]
  | cons node before ih =>
    rw [List.cons_append, List.cons_append, compileAll_cons, compileAll_cons, ih]

/-- Parts with the same outcome can stand for each other wherever a part stands. -/
theorem compile_fill_congr [Objects] (context : Context)
    (h : part.compile data = part'.compile data) :
    (context.fill part).compile data = (context.fill part').compile data := by
  induction context with
  | hole => exact h
  | field name body ih => rw [Context.fill, Context.fill, compile_field, compile_field, ih]
  | boolean operator before child behind ih =>
    rw [Context.fill, Context.fill, compile_boolean, compile_boolean,
      compileAll_append_cons_congr ih]
  | group before child behind ih =>
    rw [Context.fill, Context.fill, compile_group, compile_group, compileAll_append_cons_congr ih]
  | fuzzy body similarity ih =>
    rw [Context.fill, Context.fill, compile_fuzzy, compile_fuzzy, ih]
  | boost body factor ih => rw [Context.fill, Context.fill, compile_boost, compile_boost, ih]
  | required body ih => rw [Context.fill, Context.fill, compile_required, compile_required, ih]

/-- A part that compiles may be replaced by its own fragment, wherever it stands in a node and
whatever the texts, numbers and flags of the node are: the outcome is the same text, or the same
failure of another part. -/
theorem compile_replaced [Objects] (context : Context) {fragment : String}
    (h : part.compile data = .ok fragment) :
    (context.fill (verbatim fragment)).compile data = (context.fill part).compile data :=
  compile_fill_congr context ((compile_verbatim fragment).trans h.symm)

end

/-- A range has braces of its own, and a part behind it fails. -/
theorem compile_replaced_range :
    let part : Node := .range (.str "a") (.str "b") (.bool false) (.bool true)
    let context : Context := .group [.raw (.str "x")] (.boost .hole (.int 2)) [.other .null]
    part.compile (.map []) = .ok "\x7b a TO b ]" ∧
      verbatim "\x7b a TO b ]" = .raw (.str "\x7b\x7b a TO b ]") ∧
      (context.fill (verbatim "\x7b a TO b ]")).compile (.map [])
        = (context.fill part).compile (.map []) := by
  intro part context
  have hpart : part.compile (.map []) = .ok "\x7b a TO b ]" := by
    have ha : render (.str "a") (.map []) = .ok "a" := render_of_braceFree (by decide) _
    have hb : render (.str "b") (.map []) = .ok "b" := render_of_braceFree (by decide) _
    rw [compile_range, ha, hb]
    rfl
  exact ⟨hpart, rfl, compile_replaced context hpart⟩

end Node

end QueryTemplates
