import QueryTemplates.Proofs.KeyPath
import QueryTemplates.Proofs.Placeholder.Refusal

/-!
# Template texts made of pieces

A template text can be written piece by piece: literal text with every brace doubled, and
placeholders for paths of identifiers. Such a text is read once, from left to right, and every piece
is read back as it was meant, whatever its neighbours are. So what it becomes is put together from
what the pieces become; what a placeholder finds is inserted as it is and never read again. Main
statement: `Piece.render_template`.

About `SPEC_FULL.md` §11 (lines 202–203).
-/

namespace QueryTemplates

/-- A piece of a template text. -/
inductive Piece where
  /-- Text that stands for itself. -/
  | literal (text : String)
  /-- A placeholder for what is found along a path. -/
  | slot (path : KeyPath)

namespace Piece

/-- Every brace twice. -/
def doubled (cs : List Char) : List Char :=
  cs.flatMap fun c => if c = '\x7b' ∨ c = '\x7d' then [c, c] else [c]

/-- The piece as it is written. -/
def written : Piece → String
  | .literal text => String.ofList (doubled text.toList)
  | .slot path => path.placeholder

/-- What the piece becomes. -/
def fill [Objects] (data : Value) : Piece → Except FillError String
  | .literal text => .ok text
  | .slot path => do
    let found ← path.fieldName.lookUp data
    found.shownText.mapError .format

/-- The template text of pieces. -/
def template (pieces : List Piece) : String := String.join (pieces.map written)

/-! ### Pieces are read back -/

theorem readSegments_doubled (literal cs behind : List Char) :
    readSegments literal (doubled cs ++ behind) = readSegments (cs.reverse ++ literal) behind := by
  induction cs generalizing literal with
  | nil => rfl
  | cons c cs ih =>
    have hcons : doubled (c :: cs)
        = (if c = '\x7b' ∨ c = '\x7d' then [c, c] else [c]) ++ doubled cs := rfl
    have hliteral : (c :: cs).reverse ++ literal = cs.reverse ++ c :: literal := by simp
    rw [hcons, hliteral, ← ih]
    by_cases hopen : c = '\x7b'
    · subst hopen
      show readSegments literal ('\x7b' :: '\x7b' :: (doubled cs ++ behind)) = _
      rw [readSegments]
    · by_cases hclose : c = '\x7d'
      · subst hclose
        show readSegments literal ('\x7d' :: '\x7d' :: (doubled cs ++ behind)) = _
        rw [readSegments]
      · rw [if_neg (by simp [hopen, hclose])]
        exact readSegments_cons hopen hclose literal _

theorem fillField_field [Objects] (data : Value) (path : KeyPath) :
    fillField 1 data path.field = fill data (.slot path) :=
  fillField_of_name path.readFieldName_name rfl rfl rfl 1 data

/-- Behind any literal text, the pieces are filled one after the other. -/
theorem fillSegments_readSegments [Objects] (data : Value) (pieces : List Piece)
    (literal : List Char) :
    fillSegments 1 data (readSegments literal (template pieces).toList)
      = (do return String.ofList literal.reverse ++ String.join (← pieces.mapM (fill data))) := by
  induction pieces generalizing literal with
  | nil =>
    show fillSegments 1 data (readSegments literal []) = _
    rw [readSegments, fillSegments, fillSegments]
    rfl
  | cons piece pieces ih =>
    have hcons : (template (piece :: pieces)).toList
        = piece.written.toList ++ (template pieces).toList := by
      simp [template]
    rw [hcons, List.mapM_cons]
    cases piece with
    | literal text =>
      rw [written, String.toList_ofList, readSegments_doubled, ih]
      cases pieces.mapM (fill data) with
      | error e => rfl
      | ok texts =>
        show Except.ok _ = Except.ok _
        simp [String.append_assoc]
    | slot path =>
      rw [written, path.toList_placeholder, List.cons_append, List.append_assoc,
        List.singleton_append, readSegments_field (path.readField_name _), fillSegments,
        fillSegments, ih, fillField_field]
      cases fill data (.slot path) with
      | error e => rfl
      | ok s =>
        cases pieces.mapM (fill data) with
        | error e => rfl
        | ok texts =>
          show Except.ok _ = Except.ok _
          simp

/-- The template text of pieces becomes what they become, one behind the other. -/
theorem fill_template [Objects] (pieces : List Piece) (data : Value) :
    QueryTemplates.fill (template pieces) data = String.join <$> pieces.mapM (fill data) := by
  rw [QueryTemplates.fill, segments, fillSegments_readSegments]
  cases pieces.mapM (fill data) <;> simp [pure, Except.pure]

/-! ### What pieces become -/

/-- What a piece is meant to become: literal text itself, and a placeholder the text that is found
along its path. -/
inductive Becomes (data : Value) : Piece → String → Prop
  | literal (text : String) : Becomes data (.literal text) text
  | slot {path : KeyPath} {s : String} (h : data.find? path.keys = some (.str s)) :
      Becomes data (.slot path) s

section

variable {data : Value} {piece : Piece} {s : String}

theorem Becomes.fill [Objects] (h : Becomes data piece s) : piece.fill data = .ok s := by
  cases h with
  | literal text => rfl
  | slot h =>
    rw [Piece.fill, (lookUp_eq_ok_iff _).mpr ⟨_, rfl, h⟩]
    rfl

/-- A piece never asks for a layout. -/
theorem failsOnly_fill [Objects] (piece : Piece) (data : Value) :
    FailsOnly (¬·.IsRange) (piece.fill data) := by
  cases piece with
  | literal text => exact .ok text
  | slot path =>
    exact (failsOnly_lookUp _).bind fun found => (failsOnly_foundText found).mapError fun _ h => h

/-- A placeholder is filled only with what is found along its path. -/
theorem exists_of_fill_slot [Objects] {path : KeyPath} (h : (slot path).fill data = .ok s) :
    ∃ v, data.find? path.keys = some v := by
  obtain ⟨found, hfound, -⟩ := bind_eq_ok_iff.mp h
  obtain ⟨v, -, hv⟩ := (lookUp_eq_ok_iff path).mp hfound
  exact ⟨v, hv⟩

end

/-- The template text of pieces becomes what the pieces are meant to become, one behind the other,
whatever braces and other characters are in it. A path that leads nowhere is told as a bad value. -/
theorem render_template [Objects] (pieces : List Piece) (data : Value) :
    (∀ texts, List.Forall₂ (Becomes data) pieces texts →
      render (.str (template pieces)) data = .ok (String.join texts)) ∧
    ((∃ path, slot path ∈ pieces ∧ data.find? path.keys = none) →
      ∃ e, render (.str (template pieces)) data = .error e ∧ e.category = .badValue) := by
  have hrender : render (.str (template pieces)) data
      = (String.join <$> pieces.mapM (fill data)).mapError (⟨.str (template pieces), ·⟩) := by
    rw [render, fill_template]
  constructor
  · intro texts htexts
    rw [hrender, mapM_eq_ok_iff.mpr (htexts.imp fun _ _ => Becomes.fill)]
    rfl
  · rintro ⟨path, hmem, hnone⟩
    cases hfill : pieces.mapM (fill data) with
    | ok texts =>
      obtain ⟨s, -, hs⟩ := exists_of_mem_of_forall₂ (mapM_eq_ok_iff.mp hfill) hmem
      obtain ⟨v, hv⟩ := exists_of_fill_slot hs
      rw [hnone] at hv
      cases hv
    | error e =>
      obtain ⟨-, piece, -, -, -, hpiece⟩ := mapM_eq_error_iff.mp hfill
      refine ⟨⟨.str (template pieces), e⟩, by rw [hrender, hfill]; rfl, ?_⟩
      exact category_eq_badValue_iff.mpr (failsOnly_fill piece data e hpiece)

/-- Literal braces next to placeholders, and braces, quotes and backslashes in the data. -/
theorem render_template_among_braces :
    let data : Value := .map [(.str "a", .str "\x7ba\x7d\"\\"),
      (.str "user", .map [(.str "name", .str "\x7d\x7d\x7b")])]
    let a : KeyPath := ⟨"a", [], by decide⟩
    let name : KeyPath := ⟨"user", ["name"], by decide⟩
    let age : KeyPath := ⟨"user", ["age"], by decide⟩
    template [.literal "\x7b", .slot a, .slot name, .literal "\x7d\x7b"]
        = "\x7b\x7b\x7ba\x7d\x7buser[name]\x7d\x7d\x7d\x7b\x7b" ∧
      render (.str (template [.literal "\x7b", .slot a, .slot name, .literal "\x7d\x7b"])) data
        = .ok "\x7b\x7ba\x7d\"\\\x7d\x7d\x7b\x7d\x7b" ∧
      ∃ e, render (.str (template [.slot a, .slot age])) data = .error e ∧
        e.category = .badValue := by
  intro data a name age
  refine ⟨by decide, ?_, (render_template _ data).2 ⟨age, by simp, rfl⟩⟩
  refine (render_template _ data).1 ["\x7b", "\x7ba\x7d\"\\", "\x7d\x7d\x7b", "\x7d\x7b"] ?_
  exact .cons (.literal _) (.cons (.slot rfl) (.cons (.slot rfl) (.cons (.literal _) .nil)))

end Piece

end QueryTemplates
