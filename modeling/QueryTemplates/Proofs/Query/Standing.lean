import QueryTemplates.Proofs.Query.Frame

/-!
# Queries that stand apart

Compiled queries can be told apart when precedence is spelled out by groups. Which part of a query
may stand where is a matter of its standing: a closed part has delimiters of its own, an item may
stand among others in a group, and a compound needs a group around it. Such queries use no data, so
they always compile, and to one text.

About `SPEC_FULL.md` §12 (lines 205–209).
-/

namespace QueryTemplates

/-- The text is a word: letters and digits, and at least one. -/
structure IsWord (text : String) : Prop where
  nonempty : text.toList ≠ []
  alphanum : ∀ c ∈ text.toList, c.isAlphanum = true

/-- A word has characters, and all of them are letters or digits. -/
theorem isWord_iff {text : String} :
    IsWord text ↔ text.toList ≠ [] ∧ text.toList.all Char.isAlphanum = true := by
  rw [List.all_eq_true]
  constructor
  · intro h
    exact ⟨h.nonempty, h.alphanum⟩
  · rintro ⟨hnonempty, halphanum⟩
    exact ⟨hnonempty, halphanum⟩

instance (text : String) : Decidable (IsWord text) := decidable_of_iff _ isWord_iff.symm

/-- Where a part of a query may stand. -/
inductive Standing where
  /-- With delimiters of its own. -/
  | closed
  /-- With delimiters of its own, or those of a range. -/
  | delimited
  /-- Among others in a group. -/
  | item
  /-- Alone in a group. -/
  | compound
deriving DecidableEq

/-- A query, and all parts of it, may stand where they stand. -/
inductive Query.Stands : Standing → Query → Prop
  | term {text : String} (hfree : BraceFree text) : Stands .closed (.term text)
  | items {children : List Query} (hitems : ∀ q ∈ children, Stands .item q) :
    Stands .closed (.group children)
  | nested {q : Query} (hcompound : Stands .compound q) : Stands .closed (.group [q])
  | closed {q : Query} (hclosed : Stands .closed q) : Stands .delimited q
  | range {start stop : String} {includeStart includeStop : Bool} (hstart : IsWord start)
    (hstop : IsWord stop) : Stands .delimited (.range start stop includeStart includeStop)
  | delimited {q : Query} (hdelimited : Stands .delimited q) : Stands .item q
  | field {name : String} {body : Query} (hname : IsWord name) (hbody : Stands .delimited body) :
    Stands .item (.field name body)
  | required {body : Query} (hbody : Stands .closed body) : Stands .item (.required body)
  | boost {body : Query} {factor : Int} (hbody : Stands .closed body) (hleast : 1 ≤ factor)
    (hmost : factor ≤ greatestSafe) : Stands .item (.boost body (.int factor))
  | fuzzy {body : Query} {similarity : Option Number} (hbody : Stands .closed body)
    (hsimilarity : similarity ∈ [none, some (.int 0), some (.int 1)]) :
    Stands .item (.fuzzy body similarity)
  | boolean {op : Operator} {children : List Query} (hseveral : 2 ≤ children.length)
    (hitems : ∀ q ∈ children, Stands .item q) : Stands .compound (.boolean op children)

/-- The query is an item or a compound. -/
def Query.StandsAlone (q : Query) : Prop := q.Stands .item ∨ q.Stands .compound

/-! ### No data is used -/

/-- The requirement is met whatever the data, and its text is not changed by filling. -/
def Requirement.Constant : Requirement → Prop
  | .phrase words => BraceFree words
  | .filled words => BraceFree words
  | .similarity n => n.Within 0 1
  | .distance n => n.Within 0 greatestSafe
  | .factor n => n.Within 1 greatestSafe

/-- What is constant is met by any data. -/
theorem Requirement.Constant.met [Objects] {r : Requirement} (h : r.Constant) (data : Value) :
    r.Met data := by
  cases r with
  | phrase words => exact ⟨words, render_of_braceFree h data⟩
  | filled words => exact ⟨words, render_of_braceFree h data⟩
  | similarity n => exact h
  | distance n => exact h
  | factor n => exact h

theorem braceFree_of_isWord {text : String} (h : IsWord text) : BraceFree text := by
  constructor
  · intro hmem
    exact absurd (h.alphanum _ hmem) (by decide)
  · intro hmem
    exact absurd (h.alphanum _ hmem) (by decide)

namespace Query

variable {q : Query}

/-- A query of constant requirements compiles to its own texts, whatever the data. -/
theorem compile_of_constant [Objects] (h : ∀ r ∈ q.requirements, r.Constant) (data : Value) :
    q.compile data = .ok (q.write id) := by
  have hfilled {text : String} (htext : BraceFree text) : filledText data text = text :=
    filledText_of_ok (render_of_braceFree htext data)
  have hpieces : termPieces (filledText data) q = termPieces id q :=
    List.map_congr_left fun text htext => by
      rw [hfilled (h _ (mem_termTexts_iff.mp htext))]
      rfl
  have hsame : ∀ text ∈ q.otherTexts, filledText data text = text :=
    fun text htext => hfilled (h _ (mem_otherTexts_iff.mp htext))
  have hwrite : q.write (filledText data) = q.write id :=
    calc q.write (filledText data)
        = q.frame.fill (termPieces (filledText data) q) := write_eq_frame_fill hsame
      _ = q.frame.fill (termPieces id q) := by rw [hpieces]
      _ = q.write id := (write_eq_frame_fill fun _ _ => rfl).symm
  rw [← hwrite]
  exact compile_eq_ok_iff.mpr ⟨fun r hr => (h r hr).met data, rfl⟩

theorem constant_of_children {children : List Query}
    (h : ∀ q ∈ children, ∀ r ∈ q.requirements, r.Constant) :
    ∀ r ∈ requirementsAll children, r.Constant := by
  rw [requirementsAll_eq_flatMap]
  intro r hr
  obtain ⟨q, hq, hr⟩ := List.mem_flatMap.mp hr
  exact h q hq r hr

/-- A query that stands apart depends on no data. -/
theorem Stands.constant {standing : Standing} (h : q.Stands standing) :
    ∀ r ∈ q.requirements, r.Constant := by
  induction h with
  | term hfree => simpa [requirements, Requirement.Constant] using hfree
  | items hitems ih => exact constant_of_children ih
  | nested hcompound ih => exact constant_of_children (by simpa using ih)
  | closed hclosed ih => exact ih
  | range hstart hstop =>
    have hstart := braceFree_of_isWord hstart
    have hstop := braceFree_of_isWord hstop
    simp [requirements, Requirement.Constant, hstart, hstop]
  | delimited hdelimited ih => exact ih
  | field hname hbody ih =>
    rw [requirements, List.forall_mem_cons]
    exact ⟨braceFree_of_isWord hname, ih⟩
  | required hbody ih => exact ih
  | boost hbody hleast hmost ih =>
    rw [requirements, List.forall_mem_append]
    refine ⟨ih, ?_⟩
    simpa [Requirement.Constant, within_int_iff] using ⟨hleast, hmost⟩
  | @fuzzy body similarity hbody hsimilarity ih =>
    cases similarity with
    | none => exact ih
    | some n =>
      rw [requirements, List.forall_mem_append]
      refine ⟨ih, ?_⟩
      have hn : n = .int 0 ∨ n = .int 1 := by simpa using hsimilarity
      rcases hn with rfl | rfl <;> simp [Requirement.Constant, within_int_iff]
  | boolean hseveral hitems ih => exact constant_of_children ih

end Query

end QueryTemplates
