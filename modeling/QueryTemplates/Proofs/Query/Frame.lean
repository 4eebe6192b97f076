import Mathlib.Data.List.Forall2
import QueryTemplates.Proofs.Fragment.Phrase
import QueryTemplates.Proofs.Placeholder.Render
import QueryTemplates.Proofs.Query.Compile

/-!
# What data cannot change

The frame of a query is what stands around its terms: one text in front, and one behind each term.
It is found by recursion over the query and never looks at data. If braces occur in terms only, data
decides what stands in the quotes of the terms and nothing else.

About `SPEC_FULL.md` §12 (lines 205–209).
-/

namespace QueryTemplates

/-- Fixed texts with a gap between each adjacent pair. -/
structure Frame where
  front : String
  /-- The texts behind the gaps. -/
  behind : List String

namespace Frame

/-- No text at all. -/
def empty : Frame := ⟨"", []⟩

/-- The frame with a text in front of it. -/
def text (s : String) (frame : Frame) : Frame := ⟨s ++ frame.front, frame.behind⟩

/-- The frame with a gap in front of it. -/
def gap (frame : Frame) : Frame := ⟨"", frame.front :: frame.behind⟩

/-- The frame with a piece in each gap. -/
def fill (frame : Frame) (pieces : List String) : String :=
  frame.front ++ String.join (List.zipWith (· ++ ·) pieces frame.behind)

theorem fill_empty : empty.fill [] = "" := rfl

/-- Text in a frame stays where it is. -/
theorem fill_text (s : String) (frame : Frame) (pieces : List String) :
    (frame.text s).fill pieces = s ++ frame.fill pieces := by
  rw [fill, fill, text, String.append_assoc]

/-- A gap takes the first of the pieces. -/
theorem fill_gap (frame : Frame) (piece : String) (pieces : List String) :
    frame.gap.fill (piece :: pieces) = piece ++ frame.fill pieces := by
  simp [fill, gap, String.append_assoc]

/-- What is put in front of a frame has a gap for each piece, and reads `s` with the pieces in its
gaps. -/
structure Puts (put : Frame → Frame) (pieces : List String) (s : String) : Prop where
  length : ∀ frame, (put frame).behind.length = pieces.length + frame.behind.length
  fill : ∀ frame rest, (put frame).fill (pieces ++ rest) = s ++ frame.fill rest

namespace Puts

variable {put put' : Frame → Frame} {pieces pieces' : List String} {s s' : String}

/-- To put nothing takes no piece. -/
theorem nothing : Puts id [] "" where
  length frame := by simp
  fill frame rest := by simp

/-- To put a text takes no piece. -/
theorem text (s : String) : Puts (Frame.text s) [] s where
  length frame := by simp [Frame.text]
  fill frame rest := fill_text s frame rest

/-- To put a gap takes one piece. -/
theorem gap (piece : String) : Puts Frame.gap [piece] piece where
  length frame := by simp [Frame.gap, Nat.add_comm]
  fill frame rest := fill_gap frame piece rest

/-- What is put in two parts takes the pieces of both. -/
theorem comp (h : Puts put pieces s) (h' : Puts put' pieces' s') :
    Puts (put ∘ put') (pieces ++ pieces') (s ++ s') where
  length frame := by
    have houter := h.length (put' frame)
    have hinner := h'.length frame
    simp only [Function.comp_apply, List.length_append]
    omega
  fill frame rest := by
    rw [Function.comp_apply, List.append_assoc, h.fill, h'.fill, String.append_assoc]

end Puts

end Frame

namespace Requirement

/-- The text of a term. -/
def phrase? : Requirement → Option String
  | .phrase words => some words
  | _ => none

/-- A text that is not that of a term. -/
def filled? : Requirement → Option String
  | .filled words => some words
  | _ => none

end Requirement

namespace Query

/-- The texts of the terms from left to right. -/
def termTexts (q : Query) : List String := q.requirements.filterMap Requirement.phrase?

/-- The texts outside of terms from left to right. -/
def otherTexts (q : Query) : List String := q.requirements.filterMap Requirement.filled?

mutual

/-- Puts the frame of a query in front of another. -/
def frameBefore : Query → Frame → Frame
  | .term _ => Frame.gap
  | .raw text => Frame.text text
  | .field name body => Frame.text (Fragment.field name "") ∘ body.frameBefore
  | .boolean op children => frameJoined (" " ++ op.word ++ " ") children
  | .group children => Frame.text "( " ∘ frameJoined " " children ∘ Frame.text " )"
  | .range start stop includeStart includeStop =>
    Frame.text (Fragment.range start stop includeStart includeStop)
  | .fuzzy body similarity => body.frameBefore ∘ Frame.text (Fragment.fuzzy "" similarity)
  | .proximity first second distance => Frame.text (Fragment.proximity first second distance)
  | .boost body factor => body.frameBefore ∘ Frame.text (Fragment.boost "" factor)
  | .required body => Frame.text (Fragment.required "") ∘ body.frameBefore

/-- Puts the frames of queries with a separator between them in front of another. -/
def frameJoined (separator : String) : List Query → Frame → Frame
  | [] => id
  | q :: rest => q.frameBefore ∘ frameBehind separator rest

/-- Puts the frames of queries with a separator in front of each in front of another. -/
def frameBehind (separator : String) : List Query → Frame → Frame
  | [] => id
  | q :: rest => Frame.text separator ∘ q.frameBefore ∘ frameBehind separator rest

end

/-- What stands around the terms of a query. -/
def frame (q : Query) : Frame := q.frameBefore .empty

section

variable (body : Query)

@[simp] theorem otherTexts_raw (text : String) : (raw text).otherTexts = [text] := rfl

@[simp] theorem otherTexts_field (name : String) :
    (field name body).otherTexts = name :: body.otherTexts := rfl

@[simp] theorem termTexts_fuzzy (similarity : Option Number) :
    (fuzzy body similarity).termTexts = body.termTexts := by
  cases similarity <;> simp [termTexts, requirements, Requirement.phrase?]

@[simp] theorem otherTexts_fuzzy (similarity : Option Number) :
    (fuzzy body similarity).otherTexts = body.otherTexts := by
  cases similarity <;> simp [otherTexts, requirements, Requirement.filled?]

@[simp] theorem termTexts_boost (factor : Number) :
    (boost body factor).termTexts = body.termTexts := by
  simp [termTexts, requirements, Requirement.phrase?]

@[simp] theorem otherTexts_boost (factor : Number) :
    (boost body factor).otherTexts = body.otherTexts := by
  simp [otherTexts, requirements, Requirement.filled?]

end

/-- The texts of terms are those that are required as phrases. -/
theorem mem_termTexts_iff {q : Query} {text : String} :
    text ∈ q.termTexts ↔ .phrase text ∈ q.requirements := by
  rw [termTexts, List.mem_filterMap]
  constructor
  · rintro ⟨r, hr, hphrase⟩
    cases r with
    | phrase words =>
      obtain rfl := Option.some.inj hphrase
      exact hr
    | _ => cases hphrase
  · intro h
    exact ⟨_, h, rfl⟩

/-- The other texts are those that are required as they are. -/
theorem mem_otherTexts_iff {q : Query} {text : String} :
    text ∈ q.otherTexts ↔ .filled text ∈ q.requirements := by
  rw [otherTexts, List.mem_filterMap]
  constructor
  · rintro ⟨r, hr, hfilled⟩
    cases r with
    | filled words =>
      obtain rfl := Option.some.inj hfilled
      exact hr
    | _ => cases hfilled
  · intro h
    exact ⟨_, h, rfl⟩

/-- The texts of terms are those of the children. -/
theorem termTexts_of_children {q : Query} {children : List Query}
    (h : q.requirements = requirementsAll children) :
    q.termTexts = children.flatMap termTexts := by
  rw [termTexts, h, requirementsAll_eq_flatMap, List.filterMap_flatMap]
  rfl

/-- The other texts of a child are among those of the query. -/
theorem otherTexts_of_children {q child : Query} {children : List Query}
    (h : q.requirements = requirementsAll children) (hchild : child ∈ children) {text : String}
    (htext : text ∈ child.otherTexts) : text ∈ q.otherTexts := by
  rw [otherTexts, h, requirementsAll_eq_flatMap, List.filterMap_flatMap]
  exact List.mem_flatMap.mpr ⟨child, hchild, htext⟩

end Query

/-- Joined texts are the first one and then each other one behind a separator. -/
theorem intercalate_cons (separator text : String) (texts : List String) :
    separator.intercalate (text :: texts) = text ++ String.join (texts.map (separator ++ ·)) := by
  induction texts generalizing text with
  | nil => simp
  | cons next rest ih =>
    rw [String.intercalate_cons_cons, ih]
    simp [String.append_assoc]

/-! ### The frame with the terms in its gaps -/

section

open Query

variable (fill : String → String)

/-- The terms of a query as they are written. -/
def termPieces (q : Query) : List String := q.termTexts.map fun text => Fragment.term (fill text)

variable {fill} {children : List Query}

/-- The pieces of a query are those of its children in their order. -/
theorem termPieces_of_children {q : Query} (h : q.requirements = requirementsAll children) :
    termPieces fill q = children.flatMap (termPieces fill) := by
  rw [termPieces, termTexts_of_children h, List.map_flatMap]
  rfl

/-- Children behind separators put their pieces. -/
theorem frameBehind_puts (separator : String)
    (h : ∀ q ∈ children, Frame.Puts q.frameBefore (termPieces fill q) (q.write fill)) :
    Frame.Puts (frameBehind separator children) (children.flatMap (termPieces fill))
      (String.join ((writeAll fill children).map (separator ++ ·))) := by
  induction children with
  | nil => exact .nothing
  | cons q rest ih =>
    have hrest := ih fun q hq => h q (by simp [hq])
    have hq := (h q (by simp)).comp hrest
    rw [writeAll, List.map_cons, String.join_cons, String.append_assoc]
    exact (Frame.Puts.text separator).comp hq

/-- Children between separators put their pieces. -/
theorem frameJoined_puts (separator : String)
    (h : ∀ q ∈ children, Frame.Puts q.frameBefore (termPieces fill q) (q.write fill)) :
    Frame.Puts (frameJoined separator children) (children.flatMap (termPieces fill))
      (separator.intercalate (writeAll fill children)) := by
  cases children with
  | nil => exact .nothing
  | cons q rest =>
    rw [writeAll, intercalate_cons]
    exact (h q (by simp)).comp (frameBehind_puts separator fun q hq => h q (by simp [hq]))

/-- The frame of a query, with its terms in the gaps, is the query as it is written. -/
theorem frameBefore_puts (q : Query) (hsame : ∀ text ∈ q.otherTexts, fill text = text) :
    Frame.Puts q.frameBefore (termPieces fill q) (q.write fill) := by
  induction q using Query.induct with
  | term text => exact .gap _
  | raw text =>
    rw [write, hsame text (by simp)]
    exact .text text
  | field name body ih =>
    have hbody := ih fun text h => hsame text (by simp [h])
    have hwrite : (field name body).write fill
        = Fragment.field name "" ++ body.write fill := by
      rw [write, hsame name (by simp)]
      simp [Fragment.field]
    rw [hwrite]
    exact (Frame.Puts.text _).comp hbody
  | boolean op children ih =>
    have hchildren := fun q hq => ih q hq fun text h =>
      hsame text (otherTexts_of_children rfl hq h)
    rw [termPieces_of_children rfl]
    exact frameJoined_puts (" " ++ op.word ++ " ") hchildren
  | group children ih =>
    have hchildren := fun q hq => ih q hq fun text h =>
      hsame text (otherTexts_of_children rfl hq h)
    have hwrite : (group children).write fill
        = "( " ++ (" ".intercalate (writeAll fill children) ++ " )") := by
      simp [write, Enclosure.write, Fragment.group, String.append_assoc]
    rw [termPieces_of_children rfl, hwrite, ← List.append_nil (children.flatMap _)]
    exact (Frame.Puts.text "( ").comp ((frameJoined_puts " " hchildren).comp (.text " )"))
  | range start stop includeStart includeStop =>
    rw [write, hsame start (by simp [otherTexts, requirements, Requirement.filled?]),
      hsame stop (by simp [otherTexts, requirements, Requirement.filled?])]
    exact .text _
  | fuzzy body similarity ih =>
    have hbody := ih fun text h => hsame text (by simp [h])
    have hwrite : (fuzzy body similarity).write fill
        = body.write fill ++ Fragment.fuzzy "" similarity := by
      cases similarity <;> simp [write, Fragment.fuzzy, String.append_assoc]
    rw [hwrite, termPieces, termTexts_fuzzy, ← List.append_nil (List.map _ _)]
    exact hbody.comp (.text _)
  | proximity first second distance =>
    rw [write, hsame first (by simp [otherTexts, requirements, Requirement.filled?]),
      hsame second (by simp [otherTexts, requirements, Requirement.filled?])]
    exact .text _
  | boost body factor ih =>
    have hbody := ih fun text h => hsame text (by simp [h])
    have hwrite : (boost body factor).write fill
        = body.write fill ++ Fragment.boost "" factor := by
      simp [write, Fragment.boost, String.append_assoc]
    rw [hwrite, termPieces, termTexts_boost, ← List.append_nil (List.map _ _)]
    exact hbody.comp (.text _)
  | required body ih =>
    have hbody := ih hsame
    have hwrite : (required body).write fill = Fragment.required "" ++ body.write fill := by
      simp [write, Fragment.required]
    rw [hwrite]
    exact (Frame.Puts.text _).comp hbody

end

/-- If no other text changes, a query is its frame filled with its terms. -/
theorem write_eq_frame_fill {fill : String → String} {q : Query}
    (hsame : ∀ text ∈ q.otherTexts, fill text = text) :
    q.write fill = q.frame.fill (termPieces fill q) := by
  have hfill := (frameBefore_puts q hsame).fill .empty []
  rw [List.append_nil, Frame.fill_empty, String.append_empty] at hfill
  exact hfill.symm

/-! ### Compiled queries -/

/-- Every term of a query that compiles can be filled. -/
theorem forall₂_termTexts [Objects] {q : Query} {data : Value}
    (h : ∀ r ∈ q.requirements, r.Met data) :
    List.Forall₂ (fun text words => render (.str text) data = .ok words) q.termTexts
      (q.termTexts.map (filledText data)) := by
  rw [List.forall₂_map_right_iff, List.forall₂_same]
  intro text htext
  obtain ⟨s, hs⟩ := h _ (Query.mem_termTexts_iff.mp htext)
  rw [hs, filledText_of_ok hs]

/-- Data cannot change the structure of a query. If braces occur in its terms only, then whatever
the data, a compiled query is its frame with the terms filled from the data in the gaps. A scan from
the opening quote of such a term finds the quote that closes it, and what stands between them is
what the term was filled with. -/
theorem compile_eq_frame_fill [Objects] (q : Query)
    (hfree : ∀ text ∈ q.otherTexts, BraceFree text) :
    q.frame.behind.length = q.termTexts.length ∧
      ∀ data s, q.compile data = .ok s → ∃ filled : List String,
        List.Forall₂ (fun text words => render (.str text) data = .ok words) q.termTexts filled ∧
          s = q.frame.fill (filled.map Fragment.term) ∧
          ∀ words ∈ filled, ∀ behind, ∃ inside,
            readPhrase ((Fragment.term words).toList ++ behind) = some (inside, behind) ∧
              unescapeChars inside = words.toList := by
  constructor
  · show (q.frameBefore .empty).behind.length = _
    rw [(frameBefore_puts q fun _ _ => rfl : Frame.Puts _ (termPieces id q) _).length, termPieces,
      List.length_map]
    rfl
  · intro data s hs
    obtain ⟨hmet, rfl⟩ := compile_eq_ok_iff.mp hs
    refine ⟨q.termTexts.map (filledText data), forall₂_termTexts hmet, ?_, ?_⟩
    · have hsame : ∀ text ∈ q.otherTexts, filledText data text = text :=
        fun text h => filledText_of_ok (render_of_braceFree (hfree text h) data)
      rw [write_eq_frame_fill hsame, termPieces, List.map_map]
      rfl
    · intro words _ behind
      exact ⟨_, readPhrase_term words behind, unescapeChars_escapeChars words.toList⟩

/-- A quote in the data is escaped inside its gap. -/
theorem quote_in_data_eq_frame_fill :
    let q : Query := .group [.field "kind" (.term "\x7bname\x7d"), .term "b"]
    let data : Value := .map [(.str "name", .str "a\x22")]
    (∀ text ∈ q.otherTexts, BraceFree text) ∧ (∃ s, q.compile data = .ok s) ∧
      ∀ s, q.compile data = .ok s →
        s = "( kind: " ++ Fragment.term "a\x22" ++ " " ++ Fragment.term "b" ++ " )" := by
  intro q data
  have hfree : ∀ text ∈ q.otherTexts, BraceFree text := by decide
  have hname : readFieldName ['n', 'a', 'm', 'e'] = .ok ⟨"name", []⟩ := by
    have hindex : indexOf? ['n', 'a', 'm', 'e'] = .ok none := by decide
    simp [readFieldName, hindex, beginsAccess, readAccesses]
  have hfirst : render (.str "\x7bname\x7d") data = .ok "a\x22" :=
    render_of_readField rfl rfl hname rfl rfl rfl rfl
  have hkind : render (.str "kind") data = .ok "kind" := render_of_braceFree (by decide) data
  have hsecond : render (.str "b") data = .ok "b" := render_of_braceFree (by decide) data
  refine ⟨hfree, ⟨_, compile_eq_ok_iff.mpr ⟨?_, rfl⟩⟩, fun s hs => ?_⟩
  · rw [show q.requirements = [.filled "kind", .phrase "\x7bname\x7d", .phrase "b"] from rfl]
    simp only [List.forall_mem_cons, Requirement.Met]
    exact ⟨⟨_, hkind⟩, ⟨_, hfirst⟩, ⟨_, hsecond⟩, List.forall_mem_nil _⟩
  · obtain ⟨filled, hfilled, rfl, -⟩ := (compile_eq_frame_fill q hfree).2 data s hs
    rw [show q.termTexts = ["\x7bname\x7d", "b"] from rfl] at hfilled
    obtain ⟨first, rest, hrender, hrest, rfl⟩ := List.forall₂_cons_left_iff.mp hfilled
    obtain ⟨second, none, hrender', hnone, rfl⟩ := List.forall₂_cons_left_iff.mp hrest
    rw [hfirst] at hrender
    rw [hsecond] at hrender'
    obtain rfl := Except.ok.inj hrender
    obtain rfl := Except.ok.inj hrender'
    obtain rfl := List.forall₂_nil_left_iff.mp hnone
    rw [show q.frame = ⟨"( kind: ", [" ", " )"]⟩ from rfl]
    simp [Frame.fill, String.append_assoc]

end QueryTemplates
