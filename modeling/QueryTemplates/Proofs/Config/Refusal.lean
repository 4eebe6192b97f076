import QueryTemplates.Config.Load
import QueryTemplates.Proofs.Config.Acceptance

/-!
# How configurations are refused

A mapping that is no configuration is refused as a value of the wrong kind or as one that does not
fit, whatever it holds and however deep the fault lies; only a value that leads back to itself may
be followed until the depth of recursion is reached.

About `SPEC_FULL.md` §10.2 (lines 159–163).
-/

namespace QueryTemplates

/-- A part is refused for its kind or for what it is. -/
def Category.IsRefusal (category : Category) : Prop :=
  category = .wrongType ∨ category = .badValue

/-- A part of a configuration is refused, or it is a loop that is to be read to its end. -/
def ReadError.Expected (e : ReadError) : Prop := e = .endless ∨ e.category.IsRefusal

/-- A configuration is refused as its parts are. -/
def ConfigError.Expected (e : ConfigError) : Prop := e = .read .endless ∨ e.category.IsRefusal

theorem expected_shape (place : Place) (wanted : Shape) :
    (ReadError.shape place wanted).Expected := .inr (.inl rfl)

theorem expected_missing (place : Place) : (ReadError.missing place).Expected := .inr (.inr rfl)

/-! ### Scalars in order -/

/-- Scalars without an order are refused as such. -/
theorem failsOnly_lt (a b : Scalar) :
    FailsOnly (fun e => e.category.IsRefusal) (a.lt b) := by
  unfold Scalar.lt
  split
  · exact .ok _
  · split
    · exact .ok _
    · exact .ok _
    · exact .ok _
    · split
      · exact .ok _
      · exact .error (.inl rfl)
    · exact .error (.inl rfl)
    · exact .error (.inl rfl)
    · exact .error (.inl rfl)

theorem failsOnly_insertSorted (key : Scalar) (keys : List Scalar) :
    FailsOnly (fun e => e.category.IsRefusal) (insertSorted key keys) := by
  induction keys with
  | nil => exact .ok _
  | cons k rest ih =>
    rw [insertSorted]
    refine (failsOnly_lt key k).bind fun less => ?_
    cases less with
    | true => exact .ok _
    | false => exact ih.bind fun sorted => .ok _

/-- Keys that have no order are refused when they are to be listed. -/
theorem failsOnly_sortScalars (keys : List Scalar) :
    FailsOnly (fun e => e.category.IsRefusal) (sortScalars keys) :=
  .foldlM fun sorted key => failsOnly_insertSorted key sorted

/-! ### Parts -/

section

variable (place : Place) (entries : Mapping) (name : String) (v : Value)

theorem expected_expectMapping : FailsOnly ReadError.Expected (expectMapping place v) := by
  unfold expectMapping
  split
  · exact .ok _
  · exact .error (expected_shape _ _)

theorem expected_expectList : FailsOnly ReadError.Expected (expectList place v) := by
  unfold expectList
  split
  · exact .ok _
  · exact .error (expected_shape _ _)

theorem expected_expectText : FailsOnly ReadError.Expected (expectText place v) := by
  unfold expectText
  split
  · exact .ok _
  · exact .error (expected_shape _ _)

theorem expected_expectBool : FailsOnly ReadError.Expected (expectBool place v) := by
  unfold expectBool
  split
  · exact .ok _
  · exact .error (expected_shape _ _)

theorem expected_expectNumber : FailsOnly ReadError.Expected (expectNumber place v) := by
  unfold expectNumber
  split
  · exact .ok _
  · exact .error (expected_shape _ _)

/-- An absent key is told as missing. -/
theorem expected_requireKey : FailsOnly ReadError.Expected (requireKey entries name place) := by
  unfold requireKey
  split
  · exact .ok _
  · exact .error (expected_missing _)

/-- Keys without a meaning are refused, even if they cannot be put in an order to be shown. -/
theorem expected_checkKeys (owner : Option String) (allowed : List String) :
    FailsOnly ReadError.Expected (checkKeys place owner allowed entries) := by
  rw [checkKeys]
  split
  · exact .ok _
  · refine ((failsOnly_sortScalars _).mapError fun e h => .inr h).bind fun sorted => ?_
    split
    · exact .error (.inr (.inr rfl))
    · exact .error (.inr (.inr rfl))

end

/-! ### Queries and templates -/

namespace Query

variable (place : Place) (entries : Mapping) (name : String) (v : Value)

/-- A mapping without exactly one kind is refused as one that does not fit. -/
theorem expected_soleKind : FailsOnly ReadError.Expected (soleKind place entries) := by
  unfold soleKind
  split
  · exact .ok _
  · exact .error (.inr (.inr rfl))

theorem expected_readFlag : FailsOnly ReadError.Expected (readFlag place entries name) := by
  unfold readFlag
  split
  · exact expected_expectBool _ _
  · exact .ok _

theorem expected_readText : FailsOnly ReadError.Expected (readText place entries name) :=
  (expected_requireKey _ _ _).bind fun v => expected_expectText _ v

theorem expected_readNumber : FailsOnly ReadError.Expected (readNumber place entries name) :=
  (expected_requireKey _ _ _).bind fun v => expected_expectNumber _ v

theorem expected_readRange : FailsOnly ReadError.Expected (readRange place v) :=
  (expected_expectMapping _ _).bind fun entries =>
    (expected_checkKeys _ entries _ _).bind fun _ =>
    (expected_readText _ entries _).bind fun _ =>
    (expected_readText _ entries _).bind fun _ =>
    (expected_readFlag _ entries _).bind fun _ =>
    (expected_readFlag _ entries _).bind fun _ => .ok _

theorem expected_readProximity : FailsOnly ReadError.Expected (readProximity place v) :=
  (expected_expectMapping _ _).bind fun entries =>
    (expected_readText _ entries _).bind fun _ =>
    (expected_readText _ entries _).bind fun _ =>
    (expected_readNumber _ entries _).bind fun _ => .ok _

theorem expected_readSimilarity :
    FailsOnly ReadError.Expected (readSimilarity place entries) := by
  unfold readSimilarity
  split
  · exact .ok _
  · exact .ok _
  · exact (expected_expectNumber _ _).map _

/-- What a kind makes of a body is refused as expected if the parts of the body are. -/
theorem expected_readBody {kind : QueryKind} {body : Value}
    (hbody : ∀ place, FailsOnly ReadError.Expected (parse place body))
    (hchildren : ∀ place, FailsOnly ReadError.Expected (parseChildren place body))
    (hpart : ∀ part, Mapping.get? entries (.str "query") = some part →
      ∀ place, FailsOnly ReadError.Expected (parse place part)) :
    FailsOnly ReadError.Expected (readBody place kind entries body) := by
  cases kind with
  | term => exact (expected_expectText _ _).bind fun _ => .ok _
  | phrase => exact (expected_expectText _ _).bind fun _ => .ok _
  | raw => exact (expected_expectText _ _).bind fun _ => .ok _
  | field =>
    refine (expected_expectText _ _).bind fun _ => ?_
    rw [requireKey]
    cases hquery : Mapping.get? entries (.str "query") with
    | none => exact .error (expected_missing _)
    | some part => exact (hpart part hquery _).bind fun _ => .ok _
  | boolean op => exact (hchildren _).bind fun _ => .ok _
  | group => exact (hchildren _).bind fun _ => .ok _
  | range => exact expected_readRange _ _
  | fuzzy => exact (expected_readSimilarity _ _).bind fun _ => (hbody _).bind fun _ => .ok _
  | proximity => exact expected_readProximity _ _
  | boost => exact (hbody _).bind fun _ => (expected_readNumber _ _ _).bind fun _ => .ok _
  | required => exact (hbody _).bind fun _ => .ok _

mutual

/-- A query is refused as its parts are, by recursion along the value. -/
theorem expected_parse (place : Place) (v : Value) :
    FailsOnly ReadError.Expected (parse place v) := by
  cases v with
  | scalar s =>
    unfold parse
    cases s with
    | str text => exact .ok _
    | _ => exact .error (expected_shape _ _)
  | map entries =>
    rw [parse_map]
    refine (expected_soleKind _ _).bind fun kind => ?_
    refine (expected_checkKeys _ _ _ _).bind fun _ => ?_
    rw [requireKey]
    cases hbody : Mapping.get? entries (.str kind.name) with
    | none => exact .error (expected_missing _)
    | some body =>
      -- a body and its companion are smaller than the mapping that holds them
      have hsize := Mapping.sizeOf_get? hbody
      refine expected_readBody _ _ (fun place => expected_parse place body)
        (fun place => expected_parseChildren place body) ?_
      intro part hpart place
      have hsize' := Mapping.sizeOf_get? hpart
      exact expected_parse place part
  | loop mark content =>
    unfold parse
    exact expected_parse place content
  | endless =>
    unfold parse
    exact .error (.inl rfl)
  | _ =>
    unfold parse
    exact .error (expected_shape _ _)
termination_by sizeOf v

/-- The children of a query are refused alike. -/
theorem expected_parseChildren (place : Place) (v : Value) :
    FailsOnly ReadError.Expected (parseChildren place v) := by
  unfold parseChildren
  cases v with
  | list items => exact expected_parseItems place 0 items
  | loop mark content => exact expected_parseChildren place content
  | endless => exact .error (.inl rfl)
  | _ => exact .error (expected_shape _ _)
termination_by sizeOf v

/-- Items are refused in their order, and each as a query is. -/
theorem expected_parseItems (place : Place) (index : Nat) (items : List Value) :
    FailsOnly ReadError.Expected (parseItems place index items) := by
  match items with
  | [] =>
    rw [parseItems_nil]
    exact .ok _
  | item :: rest =>
    rw [parseItems_cons]
    refine (expected_parse _ item).bind fun query => ?_
    exact (expected_parseItems place (index + 1) rest).bind fun _ => .ok _
termination_by sizeOf items

end

end Query

/-- A template is refused for its name, its query or its data. -/
theorem Template.expected_parse (place : Place) (v : Value) :
    FailsOnly ReadError.Expected (Template.parse place v) := by
  refine (expected_expectMapping _ _).bind fun entries => ?_
  refine (expected_checkKeys _ _ _ _).bind fun _ => ?_
  have hname : FailsOnly ReadError.Expected (readName place entries) := by
    unfold readName
    split
    · exact (expected_expectText _ _).map _
    · exact .ok _
  have hdata : FailsOnly ReadError.Expected (readData place entries) := by
    unfold readData
    split
    · exact expected_expectMapping _ _
    · exact .ok _
  exact hname.bind fun _ => hdata.bind fun _ => (expected_requireKey _ _ _).bind fun body =>
    (Query.expected_parse _ body).bind fun _ => .ok _

/-! ### Configurations -/

variable {raw : Value} {entries : Mapping}

/-- A section that is no mapping is refused for its shape. -/
theorem expected_readSection (hraw : raw.entries? = some entries) (name : String) :
    FailsOnly ReadError.Expected (readSection raw (.str name) false) := by
  rw [readSection, section?_of_entries? hraw]
  split
  · exact .ok _
  · exact .ok _
  · exact expected_expectMapping _ _

/-- Each setting of the log is refused for its shape. -/
theorem LogSettings.expected_read (hraw : raw.entries? = some entries) :
    FailsOnly ReadError.Expected (LogSettings.read raw) := by
  refine (expected_readSection hraw "log").bind fun content => ?_
  exact (expected_expectText _ _).bind fun _ => (expected_expectBool _ _).bind fun _ =>
    (expected_expectText _ _).bind fun _ => .ok _

namespace Config

theorem expected_readTemplates (index : Nat) (items : List Value) :
    FailsOnly ReadError.Expected (readTemplates index items) := by
  induction items generalizing index with
  | nil => exact .ok _
  | cons item rest ih =>
    rw [readTemplates]
    exact (Template.expected_parse _ item).bind fun _ => (ih (index + 1)).bind fun _ => .ok _

/-- Each section of a configuration is refused as expected. -/
theorem expected_readParts (hraw : raw.entries? = some entries) :
    FailsOnly ReadError.Expected (readParts raw) := by
  refine (LogSettings.expected_read hraw).bind fun log => ?_
  refine (expected_readSection hraw "data").bind fun data => ?_
  have hqueries : FailsOnly ReadError.Expected (section? raw (.str "queries")) := by
    rw [section?_of_entries? hraw]
    split
    · exact .ok _
    · exact .ok _
    · exact .ok _
  refine hqueries.bind fun found => ?_
  cases found with
  | none => exact .error (expected_missing _)
  | some v =>
    exact (expected_expectList _ v).bind fun items =>
      (expected_readTemplates 0 items).bind fun _ => .ok _

/-- A configuration is refused for a kind or for a value, or because it leads back to itself. -/
theorem expected_parse (hraw : raw.entries? = some entries) :
    FailsOnly ConfigError.Expected (Config.parse raw) := by
  have hparts : FailsOnly ConfigError.Expected ((readParts raw).mapError .read) := by
    refine (expected_readParts hraw).mapError fun e he => ?_
    rcases he with rfl | he
    · exact .inl rfl
    · exact .inr he
  have hlog (settings : LogSettings) : FailsOnly ConfigError.Expected settings.check := by
    rw [LogSettings.check]
    split
    · exact .error (.inr (.inr rfl))
    · show FailsOnly _ (if _ then _ else _)
      split
      · exact .error (.inr (.inr rfl))
      · exact .ok _
  have htemplates (templates : List Template) :
      FailsOnly ConfigError.Expected (checkTemplates templates) := by
    rw [checkTemplates]
    split
    · exact .error (.inr (.inr rfl))
    · split
      · exact .error (.inr (.inr rfl))
      · exact .ok _
  exact hparts.bind fun config => (hlog config.log).bind fun _ =>
    (htemplates config.templates).bind fun _ => .ok _

end Config

end QueryTemplates
