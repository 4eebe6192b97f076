import QueryTemplates.Proofs.Fragment.Balance
import QueryTemplates.Proofs.Number.Numeral
import QueryTemplates.Proofs.Query.Frame

/-!
# Compiled queries are balanced

Whatever its terms are filled with, a compiled query leaves no quotes and no brackets open and
closes none that it did not open. Raw fragments may hold anything and are excluded; what the names
of fields, the bounds of ranges and the words of a proximity are filled with must be plain.

About `SPEC_FULL.md` §1 (lines 8–18) and §12 (lines 205–209).
-/

namespace QueryTemplates

/-- No part of the query is a raw fragment. -/
inductive Query.RawFree : Query → Prop
  | term (text : String) : RawFree (.term text)
  | field {name : String} {body : Query} (hbody : RawFree body) : RawFree (.field name body)
  | boolean {op : Operator} {children : List Query} (hchildren : ∀ q ∈ children, RawFree q) :
    RawFree (.boolean op children)
  | group {children : List Query} (hchildren : ∀ q ∈ children, RawFree q) :
    RawFree (.group children)
  | range (start stop : String) (includeStart includeStop : Bool) :
    RawFree (.range start stop includeStart includeStop)
  | fuzzy {body : Query} {similarity : Option Number} (hbody : RawFree body) :
    RawFree (.fuzzy body similarity)
  | proximity (first second : String) (distance : Number) :
    RawFree (.proximity first second distance)
  | boost {body : Query} {factor : Number} (hbody : RawFree body) : RawFree (.boost body factor)
  | required {body : Query} (hbody : RawFree body) : RawFree (.required body)

/-! ### Fragments -/

theorem plain_suffix (n : Number) : Plain n.suffix := by
  intro c hc hmem
  have hnumeral := isNumeral_of_mem_suffix hc
  simp only [delimiters, List.mem_cons, List.not_mem_nil, or_false] at hmem
  rcases hmem with rfl | rfl | rfl | rfl | rfl | rfl | rfl | rfl <;>
    exact absurd hnumeral (by decide)

/-- Joined texts change no scan if neither they nor the separator do. -/
theorem steady_intercalate {separator : String} (hseparator : Steady separator)
    {texts : List String} (h : ∀ text ∈ texts, Steady text) :
    Steady (separator.intercalate texts) := by
  cases texts with
  | nil => exact fun _ => rfl
  | cons text rest =>
    obtain ⟨htext, hrest⟩ := List.forall_mem_cons.mp h
    rw [intercalate_cons]
    refine htext.append (steady_join ?_)
    rw [List.forall_mem_map]
    exact fun next hnext => hseparator.append (hrest next hnext)

/-- Steady fragments are steady between delimiters that fit together. -/
theorem steady_enclosure {enclosure : Enclosure} {opening closing : Char}
    (hopen : enclosure.opening.toList = [opening]) (hclose : enclosure.closing.toList = [closing])
    (hopening : opening ∈ ['(', '[', '\x7b']) (hclosing : closing ∈ [')', ']', '\x7d'])
    (hcloses : closes closing opening = true) {fragments : List String}
    (h : ∀ text ∈ fragments, Steady text) : Steady (enclosure.write fragments) := by
  have hblank : Steady " " := Plain.steady (by decide)
  have hinside : Steady (" " ++ " ".intercalate fragments ++ " ") :=
    (hblank.append (steady_intercalate hblank h)).append hblank
  refine hinside.enclosed ?_ hopening hclosing hcloses
  simp [Enclosure.write, hopen, hclose]

theorem steady_range {start stop : String} (hstart : Plain start) (hstop : Plain stop)
    (includeStart includeStop : Bool) :
    Steady (Fragment.range start stop includeStart includeStop) := by
  have hto : Steady " TO " := Plain.steady (by decide)
  have hinside : ∀ text ∈ [start ++ " TO " ++ stop], Steady text := by
    simpa using (hstart.steady.append hto).append hstop.steady
  have hopen : (Fragment.rangeEnclosure includeStart includeStop).opening.toList
      = [if includeStart then '[' else '\x7b'] := by
    cases includeStart <;> simp [Fragment.rangeEnclosure]
  have hclose : (Fragment.rangeEnclosure includeStart includeStop).closing.toList
      = [if includeStop then ']' else '\x7d'] := by
    cases includeStop <;> simp [Fragment.rangeEnclosure]
  refine steady_enclosure hopen hclose ?_ ?_ ?_ hinside <;>
    cases includeStart <;> cases includeStop <;> decide

theorem steady_fuzzy {body : String} (h : Steady body) (similarity : Option Number) :
    Steady (Fragment.fuzzy body similarity) := by
  have hmark : Steady "~" := Plain.steady (by decide)
  cases similarity with
  | none => exact h.append hmark
  | some n => exact (h.append hmark).append (plain_suffix n).steady

/-- The words of a proximity stand in quotes without being escaped. -/
theorem steady_proximity {first second : String} (hfirst : Plain first) (hsecond : Plain second)
    (distance : Number) : Steady (Fragment.proximity first second distance) := by
  have hmark : Steady "~" := Plain.steady (by decide)
  have hblank : StaysQuoted [' '] := fun _ => rfl
  have hwords : Steady ("\x22" ++ first ++ " " ++ second ++ "\x22") :=
    steady_quoted (by simp)
      ((hfirst.staysQuoted.append hblank).append hsecond.staysQuoted)
  have hall := (hwords.append hmark).append (plain_suffix distance).steady
  rw [Fragment.proximity]
  simpa [String.append_assoc] using hall

/-! ### Queries -/

open Query

/-- A query is steady when it is written with plain texts outside of its terms. -/
theorem steady_write {q : Query} (hraw : q.RawFree) {fill : String → String}
    (hplain : ∀ text ∈ q.otherTexts, Plain (fill text)) : Steady (q.write fill) := by
  induction hraw with
  | term text => exact steady_term (fill text)
  | @field name body hbody ih =>
    have hname : Plain (fill name) := hplain name (by simp)
    have hcolon : Steady ": " := Plain.steady (by decide)
    exact (hname.steady.append hcolon).append (ih fun text h => hplain text (by simp [h]))
  | @boolean op children hchildren ih =>
    have hoperator : Steady (" " ++ op.word ++ " ") := Plain.steady (by cases op <;> decide)
    rw [write, writeAll_eq_map]
    refine steady_intercalate hoperator ?_
    rw [List.forall_mem_map]
    exact fun q hq => ih q hq fun text h => hplain text (otherTexts_of_children rfl hq h)
  | @group children hchildren ih =>
    rw [write, writeAll_eq_map]
    have hopen : Fragment.group.opening.toList = ['('] := rfl
    have hclose : Fragment.group.closing.toList = [')'] := rfl
    refine steady_enclosure hopen hclose (by decide) (by decide) (by decide) ?_
    rw [List.forall_mem_map]
    exact fun q hq => ih q hq fun text h => hplain text (otherTexts_of_children rfl hq h)
  | range start stop includeStart includeStop =>
    have hstart := hplain start (by simp [otherTexts, requirements, Requirement.filled?])
    have hstop := hplain stop (by simp [otherTexts, requirements, Requirement.filled?])
    exact steady_range hstart hstop includeStart includeStop
  | @fuzzy body similarity hbody ih =>
    exact steady_fuzzy (ih fun text h => hplain text (by simp [h])) similarity
  | proximity first second distance =>
    have hfirst := hplain first (by simp [otherTexts, requirements, Requirement.filled?])
    have hsecond := hplain second (by simp [otherTexts, requirements, Requirement.filled?])
    exact steady_proximity hfirst hsecond distance
  | @boost body factor hbody ih =>
    have hmark : Steady "^" := Plain.steady (by decide)
    have hbody := ih fun text h => hplain text (by simp [h])
    exact (hbody.append hmark).append (plain_suffix factor).steady
  | @required body hbody ih =>
    have hmark : Steady "+" := Plain.steady (by decide)
    exact hmark.append (ih hplain)

/-- A compiled query without raw fragments is balanced, whatever its terms are filled with, if the
names of fields, the bounds of ranges and the words of a proximity are filled with plain texts. -/
theorem compile_balanced [Objects] {q : Query} (hraw : q.RawFree) {data : Value}
    (hplain : ∀ text ∈ q.otherTexts, ∀ words, render (.str text) data = .ok words → Plain words)
    {s : String} (hs : q.compile data = .ok s) : Balanced s := by
  obtain ⟨hmet, rfl⟩ := compile_eq_ok_iff.mp hs
  refine (steady_write hraw fun text htext => ?_).balanced
  obtain ⟨words, hwords⟩ := hmet _ (mem_otherTexts_iff.mp htext)
  rw [filledText_of_ok hwords]
  exact hplain text htext words hwords

/-- Quotes and brackets in the data are escaped inside the term. -/
theorem compile_balanced_with_delimiters_in_data :
    let q : Query := .group [.field "\x7bkind\x7d" (.term "\x7bname\x7d"),
      .range "a" "b" true false, .boost (.proximity "x" "y" (.int 3)) (.int 2)]
    let data : Value := .map [(.str "kind", .str "k"), (.str "name", .str ")\\\x22]")]
    q.RawFree ∧
      (∀ text ∈ q.otherTexts, ∀ words, render (.str text) data = .ok words → Plain words) ∧
      ∃ s, q.compile data = .ok s ∧ Balanced s := by
  intro q data
  have hraw : q.RawFree := by
    refine .group ?_
    simp only [List.forall_mem_cons]
    exact ⟨.field (.term _), .range _ _ _ _, .boost (.proximity _ _ _), List.forall_mem_nil _⟩
  have hkind : render (.str "\x7bkind\x7d") data = .ok "k" := by cbv
  have hplain : ∀ text ∈ q.otherTexts, ∀ words,
      render (.str text) data = .ok words → Plain words := by
    have hsame {text : String} (hfree : BraceFree text) (h : Plain text) (words : String)
        (hwords : render (.str text) data = .ok words) : Plain words := by
      rw [render_of_braceFree hfree] at hwords
      obtain rfl := Except.ok.inj hwords
      exact h
    rw [show q.otherTexts = ["\x7bkind\x7d", "a", "b", "x", "y"] from rfl]
    simp only [List.forall_mem_cons]
    refine ⟨fun words hwords => ?_, hsame (by decide) (by decide), hsame (by decide) (by decide),
      hsame (by decide) (by decide), hsame (by decide) (by decide), List.forall_mem_nil _⟩
    rw [hkind] at hwords
    obtain rfl := Except.ok.inj hwords
    decide
  have hmet : ∀ r ∈ q.requirements, r.Met data := by
    have hsame {text : String} (hfree : BraceFree text) : ∃ s, render (.str text) data = .ok s :=
      ⟨text, render_of_braceFree hfree data⟩
    have hname : render (.str "\x7bname\x7d") data = .ok ")\\\x22]" := by cbv
    rw [show q.requirements = [.filled "\x7bkind\x7d", .phrase "\x7bname\x7d", .filled "a",
      .filled "b", .filled "x", .filled "y", .distance (.int 3), .factor (.int 2)] from rfl]
    simp only [List.forall_mem_cons, Requirement.Met, within_int_iff]
    exact ⟨⟨_, hkind⟩, ⟨_, hname⟩, hsame (by decide), hsame (by decide), hsame (by decide),
      hsame (by decide), by decide, by decide, List.forall_mem_nil _⟩
  have hs : q.compile data = .ok (q.write (filledText data)) :=
    compile_eq_ok_iff.mpr ⟨hmet, rfl⟩
  exact ⟨hraw, hplain, _, hs, compile_balanced hraw hplain hs⟩

end QueryTemplates
