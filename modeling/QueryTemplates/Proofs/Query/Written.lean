import QueryTemplates.Proofs.Query.Reading
import QueryTemplates.Query.Node

/-!
# Queries as values

Every query can be written as a value, and what is read from that value is the query again,
wherever it stands. What is read from a value is a node whose texts are texts, whose operators are
operators, and whose numbers and flags are numbers and flags; and every such node is read from some
value.

About `SPEC_FULL.md` §11 (lines 185–201).
-/

namespace QueryTemplates

namespace Query

/-- An entry with a text as its key. -/
def entry (name : String) (value : Value) : Scalar × Value := (.str name, value)

/-- The key that an operator is written with. -/
def operatorKey : Operator → String
  | .and => "and"
  | .or => "or"
  | .not => "not"

mutual

/-- The value that describes a query. A similarity is written only where there is one. -/
def written : Query → Value
  | .term text => .map [entry "term" (.str text)]
  | .raw text => .map [entry "raw" (.str text)]
  | .field name body => .map [entry "field" (.str name), entry "query" body.written]
  | .boolean op children => .map [entry (operatorKey op) (.list (writtenAll children))]
  | .group children => .map [entry "group" (.list (writtenAll children))]
  | .range start stop includeStart includeStop =>
    .map [entry "range" (.map [entry "start" (.str start), entry "end" (.str stop),
      entry "include_left" (.bool includeStart), entry "include_right" (.bool includeStop)])]
  | .fuzzy body none => .map [entry "fuzzy" body.written]
  | .fuzzy body (some similarity) =>
    .map [entry "fuzzy" body.written, entry "similarity" (.ofNumber similarity)]
  | .proximity first second distance =>
    .map [entry "proximity" (.map [entry "first" (.str first), entry "second" (.str second),
      entry "distance" (.ofNumber distance)])]
  | .boost body factor => .map [entry "boost" body.written, entry "factor" (.ofNumber factor)]
  | .required body => .map [entry "required" body.written]

/-- The values that describe queries. -/
def writtenAll : List Query → List Value
  | [] => []
  | q :: rest => q.written :: writtenAll rest

end

end Query

/-! ### Well-typed nodes -/

/-- Texts, names, bounds and words are texts, operators are operators, a similarity is a number or
null, a distance and a factor are numbers, and flags are truth values, in the whole node. -/
inductive Node.WellTyped : Node → Prop
  | term (text : String) : WellTyped (.term (.str text))
  | raw (text : String) : WellTyped (.raw (.str text))
  | field (name : String) {body : Node} (hbody : WellTyped body) :
    WellTyped (.field (.str name) body)
  | boolean {word : String} {children : List Node} (hword : word ∈ ["AND", "OR", "NOT"])
    (hchildren : ∀ node ∈ children, WellTyped node) : WellTyped (.boolean (.str word) children)
  | group {children : List Node} (hchildren : ∀ node ∈ children, WellTyped node) :
    WellTyped (.group children)
  | range (start stop : String) (includeStart includeStop : Bool) :
    WellTyped (.range (.str start) (.str stop) (.bool includeStart) (.bool includeStop))
  | fuzzy {body : Node} {similarity : Value} (hbody : WellTyped body)
    (hsimilarity : similarity = .null ∨ ∃ n, similarity.number? = some n) :
    WellTyped (.fuzzy body similarity)
  | proximity (first second : String) {distance : Value}
    (hdistance : ∃ n, distance.number? = some n) :
    WellTyped (.proximity (.str first) (.str second) distance)
  | boost {body : Node} {factor : Value} (hbody : WellTyped body)
    (hfactor : ∃ n, factor.number? = some n) : WellTyped (.boost body factor)
  | required {body : Node} (hbody : WellTyped body) : WellTyped (.required body)

theorem wellTyped_toNode (q : Query) : q.toNode.WellTyped := by
  induction q using Query.induct with
  | term text => exact .term text
  | raw text => exact .raw text
  | field name body ih => exact .field name ih
  | boolean op children ih =>
    rw [Query.toNode, Query.toNodes_eq_map]
    refine .boolean (by cases op <;> simp [Operator.word]) ?_
    rwa [List.forall_mem_map]
  | group children ih =>
    rw [Query.toNode, Query.toNodes_eq_map]
    refine .group ?_
    rwa [List.forall_mem_map]
  | range start stop includeStart includeStop => exact .range start stop includeStart includeStop
  | fuzzy body similarity ih =>
    cases similarity with
    | none => exact .fuzzy ih (.inl rfl)
    | some n => exact .fuzzy ih (.inr ⟨n, Value.number?_ofNumber n⟩)
  | proximity first second distance =>
    exact .proximity first second ⟨distance, Value.number?_ofNumber distance⟩
  | boost body factor ih => exact .boost ih ⟨factor, Value.number?_ofNumber factor⟩
  | required body ih => exact .required ih

/-- Nodes that are nodes of queries are those of a list of queries. -/
theorem exists_toNodes {children : List Node}
    (h : ∀ node ∈ children, ∃ q : Query, q.toNode = node) :
    ∃ qs : List Query, Query.toNodes qs = children := by
  induction children with
  | nil => exact ⟨[], rfl⟩
  | cons node rest ih =>
    obtain ⟨⟨q, hq⟩, hrest⟩ := List.forall_mem_cons.mp h
    obtain ⟨qs, hqs⟩ := ih hrest
    exact ⟨q :: qs, by rw [Query.toNodes, hq, hqs]⟩

/-- A well-typed node is the node of a query. -/
theorem exists_toNode {node : Node} (h : node.WellTyped) : ∃ q : Query, q.toNode = node := by
  induction h with
  | term text => exact ⟨.term text, rfl⟩
  | raw text => exact ⟨.raw text, rfl⟩
  | field name hbody ih =>
    obtain ⟨body, rfl⟩ := ih
    exact ⟨.field name body, rfl⟩
  | @boolean word children hword hchildren ih =>
    obtain ⟨qs, rfl⟩ := exists_toNodes ih
    have hop : ∃ op : Operator, op.word = word := by
      simp only [List.mem_cons, List.not_mem_nil, or_false] at hword
      rcases hword with rfl | rfl | rfl
      · exact ⟨.and, rfl⟩
      · exact ⟨.or, rfl⟩
      · exact ⟨.not, rfl⟩
    obtain ⟨op, rfl⟩ := hop
    exact ⟨.boolean op qs, rfl⟩
  | group hchildren ih =>
    obtain ⟨qs, rfl⟩ := exists_toNodes ih
    exact ⟨.group qs, rfl⟩
  | range start stop includeStart includeStop =>
    exact ⟨.range start stop includeStart includeStop, rfl⟩
  | fuzzy hbody hsimilarity ih =>
    obtain ⟨body, rfl⟩ := ih
    rcases hsimilarity with rfl | ⟨n, hn⟩
    · exact ⟨.fuzzy body none, rfl⟩
    · obtain rfl := Value.number?_eq_some_iff.mp hn
      exact ⟨.fuzzy body (some n), rfl⟩
  | proximity first second hdistance =>
    obtain ⟨n, hn⟩ := hdistance
    obtain rfl := Value.number?_eq_some_iff.mp hn
    exact ⟨.proximity first second n, rfl⟩
  | boost hbody hfactor ih =>
    obtain ⟨body, rfl⟩ := ih
    obtain ⟨n, hn⟩ := hfactor
    obtain rfl := Value.number?_eq_some_iff.mp hn
    exact ⟨.boost body n, rfl⟩
  | required hbody ih =>
    obtain ⟨body, rfl⟩ := ih
    exact ⟨.required body, rfl⟩

/-! ### Reading what was written -/

namespace Query

theorem expectNumber_ofNumber (place : Place) (n : Number) :
    expectNumber place (.ofNumber n) = .ok n := expectNumber_eq_ok_iff.mpr rfl

/-- Items are read back from the values that they were written as. -/
theorem parseItems_writtenAll {qs : List Query}
    (h : ∀ q ∈ qs, ∀ place, parse place q.written = .ok q) (place : Place) (index : Nat) :
    parseItems place index (writtenAll qs) = .ok qs := by
  induction qs generalizing index with
  | nil => rw [writtenAll, parseItems_nil]
  | cons q rest ih =>
    obtain ⟨hq, hrest⟩ := List.forall_mem_cons.mp h
    rw [writtenAll, parseItems_cons, hq, ok_bind, ih hrest]
    rfl

theorem readRange_written (place : Place) (start stop : String) (includeStart includeStop : Bool) :
    readRange place (.map [entry "start" (.str start), entry "end" (.str stop),
      entry "include_left" (.bool includeStart), entry "include_right" (.bool includeStop)])
      = .ok (.range start stop includeStart includeStop) := by
  rfl

/-- Written words in proximity are read again. -/
theorem readProximity_written (place : Place) (first second : String) (distance : Number) :
    readProximity place (.map [entry "first" (.str first), entry "second" (.str second),
      entry "distance" (.ofNumber distance)]) = .ok (.proximity first second distance) := by
  show (expectNumber _ (.ofNumber distance) >>= _) = _
  rw [expectNumber_ofNumber]
  rfl

/-- A written similarity is read again. -/
theorem readSimilarity_written (place : Place) (body : Value) (n : Number) :
    readSimilarity place [entry "fuzzy" body, entry "similarity" (.ofNumber n)]
      = .ok (some n) := by
  cases n <;> rfl

/-- An operator is written under the key of its kind. -/
theorem operatorKey_eq_name (op : Operator) : operatorKey op = (QueryKind.boolean op).name := by
  cases op <;> rfl

/-- A companion of a kind stands beside it alone. -/
theorem known_companion {kind : QueryKind} {name : String} (h : name ∈ kind.companions)
    (value : Value) :
    ∀ key ∈ Mapping.keys [entry name value], ∃ name ∈ kind.companions, key = .str name := by
  simpa [entry, Mapping.keys] using h

/-- A query is read back from the value that it was written as, wherever that stands. -/
theorem parse_written (q : Query) (place : Place) : parse place q.written = .ok q := by
  -- the place changes on the way to a part; `show` names the part that is read next
  induction q using Query.induct generalizing place with
  | term text => exact parse_singleton place .term (.str text)
  | raw text => exact parse_singleton place .raw (.str text)
  | field name body ih =>
    have hread : parse place (field name body).written = _ :=
      parse_cons place .field (.str name) [entry "query" body.written]
        (known_companion (by decide) body.written)
    rw [hread]
    show (parse (place.key "query") body.written >>= _) = _
    rw [ih]
    rfl
  | boolean op children ih =>
    rw [written, entry, operatorKey_eq_name, parse_singleton, readBody, parseChildren_list,
      parseItems_writtenAll ih]
    rfl
  | group children ih =>
    have hread : parse place (group children).written = _ :=
      parse_singleton place .group (.list (writtenAll children))
    rw [hread, readBody, parseChildren_list, parseItems_writtenAll ih]
    rfl
  | range start stop includeStart includeStop =>
    have hread : parse place (range start stop includeStart includeStop).written = _ :=
      parse_singleton place .range _
    rw [hread]
    exact readRange_written (place.key "range") start stop includeStart includeStop
  | fuzzy body similarity ih =>
    cases similarity with
    | none =>
      have hread : parse place (fuzzy body none).written = _ :=
        parse_singleton place .fuzzy body.written
      rw [hread]
      show (parse (place.key "fuzzy") body.written >>= _) = _
      rw [ih]
      rfl
    | some n =>
      have hread : parse place (fuzzy body (some n)).written = _ :=
        parse_cons place .fuzzy body.written [entry "similarity" (.ofNumber n)]
          (known_companion (by decide) (.ofNumber n))
      rw [hread]
      show (readSimilarity place [entry "fuzzy" body.written,
        entry "similarity" (.ofNumber n)] >>= _) = _
      rw [readSimilarity_written, ok_bind]
      show (parse (place.key "fuzzy") body.written >>= _) = _
      rw [ih]
      rfl
  | proximity first second distance =>
    have hread : parse place (proximity first second distance).written = _ :=
      parse_singleton place .proximity _
    rw [hread]
    exact readProximity_written (place.key "proximity") first second distance
  | boost body factor ih =>
    have hread : parse place (boost body factor).written = _ :=
      parse_cons place .boost body.written [entry "factor" (.ofNumber factor)]
        (known_companion (by decide) (.ofNumber factor))
    rw [hread]
    show (parse (place.key "boost") body.written >>= _) = _
    rw [ih, ok_bind]
    show (expectNumber _ (.ofNumber factor) >>= _) = _
    rw [expectNumber_ofNumber]
    rfl
  | required body ih =>
    have hread : parse place (required body).written = _ :=
      parse_singleton place .required body.written
    rw [hread]
    show (parse (place.key "required") body.written >>= _) = _
    rw [ih]
    rfl

end Query

/-- Every query is read back from the value that it is written as, under any place; and what is
read from values, whatever they look like, is the well-typed nodes: each of them, and nothing
else. -/
theorem image_of_parse (place : Place) :
    (∀ q : Query, Query.parse place q.written = .ok q) ∧
      ∀ node : Node, node.WellTyped ↔ ∃ v q, Query.parse place v = .ok q ∧ q.toNode = node := by
  refine ⟨fun q => Query.parse_written q place, fun node => ⟨fun h => ?_, ?_⟩⟩
  · obtain ⟨q, rfl⟩ := exists_toNode h
    exact ⟨q.written, q, Query.parse_written q place, rfl⟩
  · rintro ⟨_, q, -, rfl⟩
    exact wellTyped_toNode q

end QueryTemplates
