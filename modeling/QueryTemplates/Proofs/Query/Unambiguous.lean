import QueryTemplates.Proofs.Query.Reader

/-!
# Unambiguous queries

Queries that stand apart are read back from what they compile to: parts by what they begin with,
groups by induction on the query. So no two of them compile to the same text.

About `SPEC_FULL.md` §1 (lines 8–18) and §12 (lines 205–209).
-/

namespace QueryTemplates

namespace Query

variable {q : Query}

/-! ### How parts begin -/

/-- A part begins with one of some characters. -/
def BeginsWith (starts : List Char) (q : Query) : Prop :=
  ∃ c ∈ starts, ∃ rest, q.chars = c :: rest

/-- What begins with some characters begins with more. -/
theorem BeginsWith.mono {starts more : List Char} (h : q.BeginsWith starts)
    (hsub : starts ⊆ more) : q.BeginsWith more := by
  obtain ⟨c, hc, hrest⟩ := h
  exact ⟨c, hsub hc, hrest⟩

/-- A closed query begins with a quote or a parenthesis. -/
theorem Stands.begins_closed (h : q.Stands .closed) : q.BeginsWith ['\x22', '('] := by
  cases h with
  | term hfree => exact ⟨'\x22', by decide, _, chars_term _⟩
  | items hitems => exact ⟨'(', by decide, _, chars_group _⟩
  | nested hcompound => exact ⟨'(', by decide, _, chars_group _⟩

/-- A delimited query may also begin with a bracket of a range. -/
theorem Stands.begins_delimited (h : q.Stands .delimited) :
    q.BeginsWith ['\x22', '(', '[', '\x7b'] := by
  cases h with
  | closed hclosed => exact hclosed.begins_closed.mono (by decide)
  | @range start stop includeStart includeStop hstart hstop =>
    refine ⟨if includeStart then '[' else '\x7b', ?_, _, chars_range _ _ _ _⟩
    cases includeStart <;> decide

/-- An item begins with a delimiter, with a plus, or with a word and a colon. -/
theorem Stands.begins_item (h : q.Stands .item) :
    q.BeginsWith ['\x22', '(', '[', '\x7b', '+'] ∨
      ∃ name rest, IsWord name ∧ q.chars = name.toList ++ ':' :: rest := by
  have hsub : ['\x22', '('] ⊆ ['\x22', '(', '[', '\x7b', '+'] := by decide
  cases h with
  | delimited hdelimited => exact .inl (hdelimited.begins_delimited.mono (by decide))
  | @field name body hname hbody => exact .inr ⟨name, _, hname, chars_field body name⟩
  | required hbody => exact .inl ⟨'+', by decide, _, chars_required _⟩
  | @boost body factor hbody hleast hmost =>
    obtain ⟨c, hc, rest, hrest⟩ := hbody.begins_closed
    exact .inl ⟨c, hsub hc, _, by rw [chars_boost, hrest, List.cons_append]⟩
  | @fuzzy body similarity hbody hsimilarity =>
    obtain ⟨c, hc, rest, hrest⟩ := hbody.begins_closed
    exact .inl ⟨c, hsub hc, _, by rw [chars_fuzzy, hrest, List.cons_append]⟩

/-- The characters that begin queries are no letters, no digits and no blanks. -/
theorem not_alphanum_of_mem {c : Char} (h : c ∈ ['\x22', '(', '[', '\x7b', '+']) :
    c.isAlphanum = false ∧ c ≠ ' ' ∧ c ≠ ')' ∧ c ≠ ':' := by
  simp only [List.mem_cons, List.not_mem_nil, or_false] at h
  rcases h with rfl | rfl | rfl | rfl | rfl <;> decide

/-- An item begins neither with a blank nor with the end of a group. -/
theorem Stands.chars_ne (h : q.Stands .item) {c : Char} (hc : c = ' ' ∨ c = ')')
    (rest tail : List Char) : q.chars ++ rest ≠ c :: tail := by
  intro heq
  rcases h.begins_item with ⟨d, hd, behind, hchars⟩ | ⟨name, behind, hname, hchars⟩
  · obtain ⟨-, hblank, hclosing, -⟩ := not_alphanum_of_mem hd
    rw [hchars] at heq
    obtain ⟨rfl, -⟩ := List.cons.inj heq
    exact hc.elim hblank hclosing
  · obtain ⟨d, ds, hword⟩ := List.exists_cons_of_ne_nil hname.nonempty
    have hd : d.isAlphanum = true := hname.alphanum d (by simp [hword])
    rw [hchars, hword] at heq
    obtain ⟨rfl, -⟩ := List.cons.inj heq
    rcases hc with rfl | rfl <;> exact absurd hd (by decide)

/-- No item is taken for an operator. -/
theorem Stands.operatorAhead_eq_none (h : q.Stands .item) (rest : List Char) :
    operatorAhead (' ' :: (q.chars ++ rest)) = none := by
  rcases h.begins_item with ⟨c, hc, behind, hchars⟩ | ⟨name, behind, hname, hchars⟩
  · obtain ⟨hc, hblank, -, -⟩ := not_alphanum_of_mem hc
    rw [hchars, List.cons_append, operatorAhead, behindWord_cons hc]
    split
    · next heq => exact absurd (List.cons.inj heq).1 hblank
    · rfl
  · rw [hchars, List.append_assoc, operatorAhead, List.cons_append,
      behindWord_append hname (by decide)]
    rfl

theorem operatorAhead_mark (op : Operator) (rest : List Char) :
    operatorAhead (' ' :: (operatorMark op ++ rest)) = some op := by
  have hmark : operatorMark op ++ rest = op.word.toList ++ ' ' :: rest := by
    simp [operatorMark]
  rw [hmark, operatorAhead, behindWord_append (isWord_operator op) (by decide),
    wordAhead_append (isWord_operator op) (by decide), Operator.ofWord?_word]
  rfl

/-! ### Groups -/

section

variable {item : List Char → Option (Query × List Char)} {children : List Query} {mark : List Char}

/-- What an item in a group is read back from goes on with a blank. -/
theorem item_moreChars
    (hitem : ∀ rest, item (q.chars ++ ' ' :: rest) = some (q, ' ' :: rest)) (mark : List Char)
    (others : List Query) (rest : List Char) :
    item (q.chars ++ (moreChars mark others ++ ' ' :: ')' :: rest))
      = some (q, moreChars mark others ++ ' ' :: ')' :: rest) := by
  cases others with
  | nil => exact hitem _
  | cons next others => exact hitem _

/-- The other items of a group are read back. -/
theorem readMore_moreChars
    (hitem : ∀ q ∈ children, ∀ rest, item (q.chars ++ ' ' :: rest) = some (q, ' ' :: rest))
    (hopen : ∀ q ∈ children, ∀ rest tail, mark ++ (q.chars ++ rest) ≠ ')' :: tail)
    {n : Nat} (hn : children.length ≤ n) (rest : List Char) :
    readMore item mark.length n (moreChars mark children ++ ' ' :: ')' :: rest)
      = some (children, rest) := by
  induction children generalizing n with
  | nil => simp [moreChars, readMore]
  | cons q others ih =>
    obtain ⟨m, rfl⟩ : ∃ m, n = m + 1 := ⟨n - 1, by simp at hn; omega⟩
    have hm : others.length ≤ m := by simpa using hn
    have hothers := ih (fun q hq => hitem q (by simp [hq])) (fun q hq => hopen q (by simp [hq])) hm
    have hsplit : moreChars mark (q :: others) ++ ' ' :: ')' :: rest
        = ' ' :: (mark ++ (q.chars ++ (moreChars mark others ++ ' ' :: ')' :: rest))) := by
      simp [moreChars]
    rw [hsplit, readMore, List.drop_left, item_moreChars (hitem q (by simp))]
    · simp only [Option.bind_eq_bind, Option.bind_some, hothers]
      rfl
    · intro _ heq
      exact hopen q (by simp) _ _ heq

theorem operatorAhead_items (hstands : ∀ q ∈ children, q.Stands .item) (rest : List Char) :
    operatorAhead (moreChars [] children ++ ' ' :: ')' :: rest) = none := by
  cases children with
  | nil => rfl
  | cons q others =>
    have hq := (hstands q (by simp)).operatorAhead_eq_none
      (moreChars [] others ++ ' ' :: ')' :: rest)
    simpa [moreChars] using hq

/-- The items of a group are read back. -/
theorem readContents_items (hstands : ∀ q ∈ children, q.Stands .item)
    (hitem : ∀ q ∈ children, ∀ rest, item (q.chars ++ ' ' :: rest) = some (q, ' ' :: rest))
    {n : Nat} (hn : children.length ≤ n) (rest : List Char) :
    readContents item n (itemsChars children ++ ' ' :: ')' :: rest) = some (children, rest) := by
  cases children with
  | nil => rfl
  | cons first others =>
    have hn : others.length ≤ n := by simp at hn; omega
    have hothers : ∀ q ∈ others, q.Stands .item := fun q hq => hstands q (by simp [hq])
    have hmore : readMore item 0 n _ = _ :=
      @readMore_moreChars item others [] (fun q hq => hitem q (by simp [hq]))
        (fun q hq => (hothers q hq).chars_ne (.inr rfl)) n hn rest
    rw [itemsChars, List.append_assoc, readContents, item_moreChars (hitem first (by simp))]
    · simp only [Option.bind_eq_bind, Option.bind_some, operatorAhead_items hothers, hmore]
      rfl
    · intro _ heq
      exact (hstands first (by simp)).chars_ne (.inl rfl) _ _ heq

/-- A compound alone in a group is read back. -/
theorem readContents_boolean (op : Operator) {first : Query} {others : List Query}
    (hstands : ∀ q ∈ first :: others, q.Stands .item) (hsome : others ≠ [])
    (hitem : ∀ q ∈ first :: others, ∀ rest, item (q.chars ++ ' ' :: rest) = some (q, ' ' :: rest))
    {n : Nat} (hn : others.length ≤ n) (rest : List Char) :
    readContents item n ((boolean op (first :: others)).chars ++ ' ' :: ')' :: rest)
      = some ([boolean op (first :: others)], rest) := by
  have hmark (q : Query) (rest tail : List Char) :
      operatorMark op ++ (q.chars ++ rest) ≠ ')' :: tail := by
    cases op <;> exact nofun
  have hahead : operatorAhead (moreChars (operatorMark op) others ++ ' ' :: ')' :: rest)
      = some op := by
    obtain ⟨next, more, rfl⟩ := List.exists_cons_of_ne_nil hsome
    have hop := operatorAhead_mark op
      (next.chars ++ (moreChars (operatorMark op) more ++ ' ' :: ')' :: rest))
    simpa [moreChars] using hop
  have hmore := readMore_moreChars (fun q hq => hitem q (by simp [hq])) (fun q _ => hmark q) hn rest
  rw [chars_boolean_cons, List.append_assoc, readContents, item_moreChars (hitem first (by simp))]
  · simp only [Option.bind_eq_bind, Option.bind_some, hahead, hmore]
    rfl
  · intro _ heq
    exact (hstands first (by simp)).chars_ne (.inl rfl) _ _ heq

end

/-! ### Reading back -/

/-- The query is read back when groups are read less than `n` deep. -/
def ReadsBack (n : Nat) (q : Query) : Standing → Prop
  | .closed => ∀ rest, readClosed n (q.chars ++ rest) = some (q, rest)
  | .delimited => ∀ rest, readDelimited (readClosed n) (q.chars ++ rest) = some (q, rest)
  | .item => ∀ rest, readItem (readClosed n) (q.chars ++ ' ' :: rest) = some (q, ' ' :: rest)
  | .compound => ∀ rest,
    readContents (readItem (readClosed n)) n (q.chars ++ ' ' :: ')' :: rest) = some ([q], rest)

theorem readsBack_term {text : String} (n : Nat) : (term text).ReadsBack n .closed := by
  intro rest
  have hphrase : readPhrase ((term text).chars ++ rest) = some (escapeChars text.toList, rest) :=
    readPhrase_term text rest
  rw [readClosed, hphrase]
  · simp [unescapeChars_escapeChars]
  · rw [chars_term]
    exact nofun

theorem readsBack_group {children : List Query} {n : Nat}
    (h : ∀ rest, readContents (readItem (readClosed n)) n
      (itemsChars children ++ ' ' :: ')' :: rest) = some (children, rest)) :
    (group children).ReadsBack (n + 1) .closed := by
  intro rest
  have hsplit : (group children).chars ++ rest
      = '(' :: ' ' :: (itemsChars children ++ ' ' :: ')' :: rest) := by
    simp [chars_group]
  rw [hsplit, readClosed, h]
  rfl

theorem readsBack_of_closed {n : Nat} (hstands : q.Stands .closed)
    (h : q.ReadsBack n .closed) : q.ReadsBack n .delimited := by
  intro rest
  obtain ⟨c, hc, tail, hchars⟩ := hstands.begins_closed
  rw [readDelimited, h rest]
  all_goals
    intro _ heq
    rw [hchars] at heq
    obtain ⟨rfl, -⟩ := List.cons.inj heq
    exact absurd hc (by decide)

theorem readsBack_range {start stop : String} (hstart : IsWord start) (hstop : IsWord stop)
    (includeStart includeStop : Bool) (n : Nat) :
    (range start stop includeStart includeStop).ReadsBack n .delimited := by
  intro rest
  rw [← readWordRange_chars hstart hstop includeStart includeStop rest, chars_range]
  cases includeStart <;> rfl

/-- A part with delimiters is read with the mark behind it. -/
theorem readItem_delimited {n : Nat} (hstands : q.Stands .delimited)
    (h : q.ReadsBack n .delimited) (tail : List Char) :
    readItem (readClosed n) (q.chars ++ tail) = some (readMark q tail) := by
  obtain ⟨c, hc, rest, hchars⟩ := hstands.begins_delimited
  have hsub : ['\x22', '(', '[', '\x7b'] ⊆ ['\x22', '(', '[', '\x7b', '+'] := by decide
  obtain ⟨halphanum, -, -, hcolon⟩ := not_alphanum_of_mem (hsub hc)
  have hbehind : behindWord (q.chars ++ tail) = c :: (rest ++ tail) := by
    rw [hchars]
    exact behindWord_cons halphanum _
  rw [readItem, hbehind]
  · split
    · next heq => exact absurd (List.cons.inj heq).1 hcolon
    · rw [h tail]
      rfl
  · intro _ heq
    rw [hchars] at heq
    obtain ⟨rfl, -⟩ := List.cons.inj heq
    exact absurd hc (by decide)

theorem readsBack_field {name : String} {n : Nat} (hname : IsWord name)
    (h : q.ReadsBack n .delimited) : (field name q).ReadsBack n .item := by
  intro rest
  have hsplit : (field name q).chars ++ ' ' :: rest
      = name.toList ++ ':' :: ' ' :: (q.chars ++ ' ' :: rest) := by
    simp [chars_field]
  rw [hsplit, readItem, behindWord_append hname (by decide), wordAhead_append hname (by decide)]
  · show (readDelimited (readClosed n) (q.chars ++ ' ' :: rest) >>= _) = _
    rw [h]
    rfl
  · intro _ heq
    obtain ⟨c, cs, hword⟩ := List.exists_cons_of_ne_nil hname.nonempty
    have hc : c.isAlphanum = true := hname.alphanum c (by simp [hword])
    rw [hword] at heq
    obtain ⟨rfl, -⟩ := List.cons.inj heq
    exact absurd hc (by decide)

theorem readsBack_required {n : Nat} (h : q.ReadsBack n .closed) :
    (required q).ReadsBack n .item := by
  intro rest
  rw [chars_required, List.cons_append, readItem, h]
  rfl

theorem readsBack_boost {n : Nat} {factor : Int} (hstands : q.Stands .closed)
    (h : q.ReadsBack n .closed) (hleast : 1 ≤ factor) :
    (boost q (.int factor)).ReadsBack n .item := by
  intro rest
  have hmark := readItem_delimited (.closed hstands) (readsBack_of_closed hstands h)
    ('^' :: ((Number.int factor).suffix.toList ++ ' ' :: rest))
  rw [readMark_boost q hleast] at hmark
  rw [chars_boost, List.append_assoc]
  exact hmark

/-- A query with a similarity reads back with it. -/
theorem readsBack_fuzzy {n : Nat} {similarity : Option Number} (hstands : q.Stands .closed)
    (h : q.ReadsBack n .closed) (hsimilarity : similarity ∈ [none, some (.int 0), some (.int 1)]) :
    (fuzzy q similarity).ReadsBack n .item := by
  intro rest
  have hmark := readItem_delimited (.closed hstands) (readsBack_of_closed hstands h)
    ((Fragment.fuzzy "" similarity).toList ++ ' ' :: rest)
  rw [readMark_fuzzy q hsimilarity] at hmark
  rw [chars_fuzzy, List.append_assoc]
  exact hmark

/-- What follows at every depth follows from some depth on. -/
theorem exists_bound_imp {P Q : Nat → Prop} (h : ∃ bound, ∀ n ≥ bound, P n)
    (himp : ∀ n, P n → Q n) : ∃ bound, ∀ n ≥ bound, Q n := by
  obtain ⟨bound, hbound⟩ := h
  exact ⟨bound, fun n hn => himp n (hbound n hn)⟩

/-- What holds of each part from some number on holds of all parts from some number on. -/
theorem exists_bound_of_forall {children : List Query} {P : Nat → Query → Prop}
    (h : ∀ q ∈ children, ∃ bound, ∀ n ≥ bound, P n q) :
    ∃ bound, ∀ n ≥ bound, ∀ q ∈ children, P n q := by
  induction children with
  | nil => exact ⟨0, fun n _ q hq => absurd hq List.not_mem_nil⟩
  | cons q others ih =>
    obtain ⟨bound, hbound⟩ := h q (by simp)
    obtain ⟨bound', hbound'⟩ := ih fun q hq => h q (by simp [hq])
    refine ⟨max bound bound', fun n hn r hr => ?_⟩
    rcases List.mem_cons.mp hr with rfl | hr
    · exact hbound n (by omega)
    · exact hbound' n (by omega) r hr

/-- A query that may stand where it stands is read back there if groups are read deep enough. -/
theorem Stands.readsBack {standing : Standing} (h : q.Stands standing) :
    ∃ bound, ∀ n ≥ bound, q.ReadsBack n standing := by
  induction h with
  | term hfree => exact ⟨0, fun n _ => readsBack_term n⟩
  | @items children hitems ih =>
    obtain ⟨bound, hbound⟩ := exists_bound_of_forall ih
    refine ⟨max bound children.length + 1, fun n hn => ?_⟩
    obtain ⟨m, rfl⟩ : ∃ m, n = m + 1 := ⟨n - 1, by omega⟩
    exact readsBack_group fun rest =>
      readContents_items hitems (hbound m (by omega)) (by omega) rest
  | @nested q hcompound ih =>
    obtain ⟨bound, hbound⟩ := ih
    refine ⟨bound + 1, fun n hn => ?_⟩
    obtain ⟨m, rfl⟩ : ∃ m, n = m + 1 := ⟨n - 1, by omega⟩
    refine readsBack_group fun rest => ?_
    have hitems : itemsChars [q] = q.chars := List.append_nil _
    rw [hitems]
    exact hbound m (by omega) rest
  | closed hclosed ih => exact exists_bound_imp ih fun n => readsBack_of_closed hclosed
  | range hstart hstop => exact ⟨0, fun n _ => readsBack_range hstart hstop _ _ n⟩
  | delimited hdelimited ih =>
    exact exists_bound_imp ih fun n h rest => readItem_delimited hdelimited h (' ' :: rest)
  | field hname hbody ih => exact exists_bound_imp ih fun n => readsBack_field hname
  | required hbody ih => exact exists_bound_imp ih fun n => readsBack_required
  | boost hbody hleast hmost ih =>
    exact exists_bound_imp ih fun n h => readsBack_boost hbody h hleast
  | fuzzy hbody hsimilarity ih =>
    exact exists_bound_imp ih fun n h => readsBack_fuzzy hbody h hsimilarity
  | @boolean op children hseveral hitems ih =>
    obtain ⟨bound, hbound⟩ := exists_bound_of_forall ih
    refine ⟨max bound children.length, fun n hn rest => ?_⟩
    match children, hseveral with
    | first :: second :: others, _ =>
      exact readContents_boolean op hitems (List.cons_ne_nil _ _) (hbound n (by omega))
        (by simp at hn ⊢; omega) rest

/-- Closed parts that are written alike are the same. -/
theorem eq_of_chars_eq {p : Query} (hp : p.Stands .closed) (hq : q.Stands .closed)
    (h : p.chars = q.chars) : p = q := by
  obtain ⟨bound, hbound⟩ := hp.readsBack
  obtain ⟨bound', hbound'⟩ := hq.readsBack
  have hreadp := hbound (max bound bound') (by omega) []
  have hreadq := hbound' (max bound bound') (by omega) []
  rw [h, hreadq] at hreadp
  exact (Prod.mk.inj (Option.some.inj hreadp)).1.symm

/-- A query in parentheses stands closed. -/
theorem StandsAlone.group (h : q.StandsAlone) : (Query.group [q]).Stands .closed := by
  rcases h with hitem | hcompound
  · exact .items (by simpa using hitem)
  · exact .nested hcompound

/-- A query that stands alone depends on no data. -/
theorem StandsAlone.constant (h : q.StandsAlone) : ∀ r ∈ q.requirements, r.Constant := by
  rcases h with hitem | hcompound
  · exact hitem.constant
  · exact hcompound.constant

/-- Items and compounds that are written alike are the same: so they are with a group around. -/
theorem eq_of_write_eq {p : Query} (hp : p.StandsAlone) (hq : q.StandsAlone)
    (h : p.write id = q.write id) : p = q := by
  have hchars : (Query.group [p]).chars = (Query.group [q]).chars := by
    rw [chars, chars, write, write, writeAll_eq_map, writeAll_eq_map, List.map_singleton,
      List.map_singleton, h]
  have hgroup := eq_of_chars_eq hp.group hq.group hchars
  simpa using hgroup

end Query

/-- Where precedence is spelled out by groups, the output is unambiguous. Two queries, each an item
or a compound, compile whatever the data, and to the same text only if they are the same. -/
theorem compile_eq_iff_of_standsAlone [Objects] {p q : Query} (hp : p.StandsAlone)
    (hq : q.StandsAlone)
    (data data' : Value) :
    ∃ s t, p.compile data = .ok s ∧ q.compile data' = .ok t ∧ (s = t ↔ p = q) := by
  refine ⟨_, _, Query.compile_of_constant hp.constant data,
    Query.compile_of_constant hq.constant data', Query.eq_of_write_eq hp hq, ?_⟩
  rintro rfl
  rfl

/-- A field whose name is an operator is told from that operator. -/
theorem field_named_or_ne_or :
    (Query.group [.field "OR" (.term "a"), .term "b"]).StandsAlone ∧
      (Query.group [.boolean .or [.term "a", .term "b"]]).StandsAlone ∧
      ∃ s t, (Query.group [.field "OR" (.term "a"), .term "b"]).compile .null = .ok s ∧
        (Query.group [.boolean .or [.term "a", .term "b"]]).compile .null = .ok t ∧ s ≠ t := by
  have hterm (text : String) (h : BraceFree text) : (Query.term text).Stands .delimited :=
    .closed (.term h)
  have hname : IsWord "OR" := by decide
  have hp : (Query.group [.field "OR" (.term "a"), .term "b"]).StandsAlone := by
    refine .inl (.delimited (.closed (.items ?_)))
    rw [List.forall_mem_cons, List.forall_mem_singleton]
    exact ⟨.field hname (hterm "a" (by decide)), .delimited (hterm "b" (by decide))⟩
  have hq : (Query.group [.boolean .or [.term "a", .term "b"]]).StandsAlone := by
    refine .inl (.delimited (.closed (.nested (.boolean (by decide) ?_))))
    rw [List.forall_mem_cons, List.forall_mem_singleton]
    exact ⟨.delimited (hterm "a" (by decide)), .delimited (hterm "b" (by decide))⟩
  obtain ⟨s, t, hs, ht, heq⟩ := compile_eq_iff_of_standsAlone hp hq .null .null
  refine ⟨hp, hq, s, t, hs, ht, fun h => ?_⟩
  have habsurd := heq.mp h
  simp at habsurd

end QueryTemplates
