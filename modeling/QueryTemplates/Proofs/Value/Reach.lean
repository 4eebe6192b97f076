import QueryTemplates.Proofs.Value.Agreement
import QueryTemplates.Proofs.Value.Ending

/-!
# What is reached in merged mappings

A path of keys leads from a value through nested mappings, whatever kind the keys have. One law,
`reach?_mergeValue`, says what every path reaches in a value that was laid over another one: what it
reaches in the upper one, laid over what it reaches in the lower one; and where it reaches nothing
in the upper one, what it reaches in the lower one, unless it leads there beyond something that is
no mapping. The keys of merged mappings are those of the lower one, with the new ones of the upper
one behind them.

About `SPEC_FULL.md` §10.3 (lines 174–178).
-/

namespace QueryTemplates

namespace Value

/-- What a mapping has at a key. -/
def part? (v : Value) (key : Scalar) : Option Value := v.entries?.bind (Mapping.get? · key)

/-- What is reached along a path of keys, each looked up in the mapping that was reached before. -/
def reach? : Value → List Scalar → Option Value
  | v, [] => some v
  | v, key :: rest => (v.part? key).bind (reach? · rest)

/-- The path leads on behind something that is reached on its way and is no mapping. -/
def stops : Value → List Scalar → Bool
  | _, [] => false
  | v, key :: rest => v.entries?.isNone || (v.part? key).any (stops · rest)

variable {v w : Value} {m : Mapping} {key : Scalar} {path : List Scalar}

/-- A part of a mapping is what stands at its key. -/
theorem part?_of_entries? (h : v.entries? = some m) (key : Scalar) :
    v.part? key = Mapping.get? m key := by
  rw [part?, h, Option.bind_some]

/-- What is no mapping has no parts. -/
theorem part?_of_entries?_none (h : v.entries? = none) (key : Scalar) : v.part? key = none := by
  rw [part?, h, Option.bind_none]

theorem reach?_nil (v : Value) : v.reach? [] = some v := rfl

/-- A path is followed key by key. -/
theorem reach?_cons (v : Value) (key : Scalar) (path : List Scalar) :
    v.reach? (key :: path) = (v.part? key).bind (·.reach? path) := rfl

/-- A path leads somewhere exactly when its first key does, and the rest from there. -/
theorem reach?_cons_eq_some_iff :
    v.reach? (key :: path) = some w ↔
      ∃ m part, v.entries? = some m ∧ Mapping.get? m key = some part ∧
        part.reach? path = some w := by
  rw [reach?_cons, Option.bind_eq_some_iff]
  constructor
  · rintro ⟨part, hpart, hreached⟩
    obtain ⟨m, hm, hget⟩ := Option.bind_eq_some_iff.mp hpart
    exact ⟨m, part, hm, hget, hreached⟩
  · rintro ⟨m, part, hm, hget, hreached⟩
    exact ⟨part, Option.bind_eq_some_iff.mpr ⟨m, hm, hget⟩, hreached⟩

/-- Paths in two parts are followed one part after the other. -/
theorem reach?_append (v : Value) (front path : List Scalar) :
    v.reach? (front ++ path) = (v.reach? front).bind (·.reach? path) := by
  induction front generalizing v with
  | nil => rfl
  | cons key front ih =>
    rw [List.cons_append, reach?_cons, reach?_cons, Option.bind_assoc]
    exact Option.bind_congr fun part _ => ih part

/-- A path stops in a mapping where it stops behind its first key. -/
theorem stops_cons_of_entries? (h : v.entries? = some m) (key : Scalar) (path : List Scalar) :
    v.stops (key :: path) = (Mapping.get? m key).any (·.stops path) := by
  rw [stops, part?_of_entries? h, h]
  rfl

theorem stops_cons_of_entries?_none (h : v.entries? = none) (key : Scalar) (path : List Scalar) :
    v.stops (key :: path) = true := by
  rw [stops, h]
  rfl

/-- A path stops when one that it leads on from reaches something that is no mapping. -/
theorem stops_iff :
    v.stops path = true ↔ ∃ front key rest w,
      path = front ++ key :: rest ∧ v.reach? front = some w ∧ w.entries? = none := by
  induction path generalizing v with
  | nil => simp [stops]
  | cons key path ih =>
    constructor
    · intro h
      cases hm : v.entries? with
      | none => exact ⟨[], key, path, v, rfl, rfl, hm⟩
      | some m =>
        rw [stops_cons_of_entries? hm, Option.any_eq_true] at h
        obtain ⟨part, hpart, h⟩ := h
        obtain ⟨front, next, rest, w, rfl, hw, hnone⟩ := ih.mp h
        exact ⟨key :: front, next, rest, w, rfl,
          reach?_cons_eq_some_iff.mpr ⟨m, part, hm, hpart, hw⟩, hnone⟩
    · rintro ⟨front, next, rest, w, hpath, hw, hnone⟩
      cases front with
      | nil =>
        obtain rfl := Option.some.inj hw
        exact stops_cons_of_entries?_none hnone key path
      | cons first front =>
        obtain ⟨rfl, rfl⟩ := List.cons.inj hpath
        obtain ⟨m, part, hm, hget, hw⟩ := reach?_cons_eq_some_iff.mp hw
        rw [stops_cons_of_entries? hm, hget]
        exact ih.mpr ⟨front, next, rest, w, rfl, hw, hnone⟩

end Value

namespace Mapping

variable {before : Option Value} {v w : Value} {m base override : Mapping} {path : List Scalar}

theorem bind_part? (before : Option Value) (key : Scalar) :
    before.bind (·.part? key) = (ofValue? before).bind (get? · key) := by
  cases before <;> rfl

/-- What a value that was laid over another one has at a key. -/
theorem part?_mergeValue (hm : v.entries? = some m) (hdistinct : m.Distinct)
    (before : Option Value) (key : Scalar) :
    (mergeValue before v).part? key =
      match get? m key with
      | none => before.bind (·.part? key)
      | some part => some (mergeValue (before.bind (·.part? key)) part) := by
  rw [bind_part?]
  cases hold : ofValue? before with
  | none =>
    rw [mergeValue_of_ofValue?_none hold, Value.part?_of_entries? hm, Option.bind_none]
    cases get? m key with
    | none => rfl
    | some part => exact congrArg some (mergeValue_none part).symm
  | some old =>
    rw [Value.part?_of_entries? (entries?_mergeValue hold hm)]
    refine (get?_merge hdistinct key).trans ?_
    cases get? m key <;> rfl

/-- What a path reaches in a value that was laid over another one. -/
theorem reach?_mergeValue (hv : v.WellKeyed) (before : Option Value) (path : List Scalar) :
    (mergeValue before v).reach? path =
      match v.reach? path with
      | some w => some (mergeValue (before.bind (·.reach? path)) w)
      | none => if v.stops path then none else before.bind (·.reach? path) := by
  induction path generalizing v before with
  | nil =>
    have hbefore : before.bind (·.reach? []) = before := Option.bind_fun_some before
    rw [Value.reach?_nil, Value.reach?_nil, hbefore]
  | cons key rest ih =>
    have hlower : before.bind (·.reach? (key :: rest))
        = (before.bind (·.part? key)).bind (·.reach? rest) :=
      (Option.bind_assoc before _ _).symm
    rw [Value.reach?_cons, Value.reach?_cons, hlower]
    cases hm : v.entries? with
    | none =>
      -- the path leads on behind the upper value, which is no mapping
      rw [mergeValue_of_entries?_none hm, Value.part?_of_entries?_none hm,
        Value.stops_cons_of_entries?_none hm]
      rfl
    | some m =>
      have hkeyed : WellKeyed m := .of_entries? hv hm
      rw [part?_mergeValue hm hkeyed.distinct, Value.part?_of_entries? hm,
        Value.stops_cons_of_entries? hm]
      cases hpart : get? m key with
      | none => rfl
      | some part => exact ih (hkeyed.get? hpart) _

/-- What is reached in the upper layer is merged with what is reached in the lower one. -/
theorem reach?_mergeValue_of_eq_some (hv : v.WellKeyed) (h : v.reach? path = some w)
    (before : Option Value) :
    (mergeValue before v).reach? path = some (mergeValue (before.bind (·.reach? path)) w) := by
  rw [reach?_mergeValue hv, h]

/-! ### Keys in their order -/

/-- A key that is set is there, and so are those that were there. -/
theorem contains_set (m : Mapping) (k : Scalar) (v : Value) (key : Scalar) :
    contains (set m k v) key = (k.same key || contains m key) := by
  rw [contains, contains, get?_set]
  cases k.same key <;> rfl

/-- New keys follow those that are there, in their order. -/
theorem keys_merge (h : override.Distinct) (base : Mapping) :
    keys (merge base override) = keys base ++ (keys override).filter (!contains base ·) := by
  induction override generalizing base with
  | nil => simp [keys]
  | cons entry rest ih =>
    obtain ⟨k, v⟩ := entry
    obtain ⟨hk, hrest⟩ := List.pairwise_cons.mp h
    -- the keys behind `k` are other ones, so that setting `k` makes none of them known
    have hfilter (w : Value) : (keys rest).filter (!contains (set base k w) ·)
        = (keys rest).filter (!contains base ·) :=
      List.filter_congr fun key hkey => by rw [contains_set, hk key hkey, Bool.false_or]
    have hkeys : keys ((k, v) :: rest) = k :: keys rest := rfl
    rw [merge_cons, ih hrest, hfilter, keys_set, hkeys, List.filter_cons, contains]
    cases get? base k with
    | none => simp
    | some _ => simp

/-! ### Mappings over mappings, path by path -/

/-- What a path reaches in one of two mappings laid over one another. -/
theorem reach?_merge (hover : override.WellKeyed) (base : Mapping) (path : List Scalar) :
    (Value.map (merge base override)).reach? path =
      match (Value.map override).reach? path with
      | some w => some (mergeValue ((Value.map base).reach? path) w)
      | none =>
        if (Value.map override).stops path then none else (Value.map base).reach? path := by
  have hkeyed : (Value.map override).WellKeyed := .mapping rfl hover.distinct hover.values
  rw [← mergeValue_map_map]
  exact reach?_mergeValue hkeyed (some (.map base)) path

theorem reach?_merge_of_eq_some (hover : override.WellKeyed) (base : Mapping)
    (h : (Value.map override).reach? path = some w) :
    (Value.map (merge base override)).reach? path
      = some (mergeValue ((Value.map base).reach? path) w) := by
  rw [reach?_merge hover, h]

theorem WellKeyed.of_reach? (hv : v.WellKeyed) (h : v.reach? path = some w) : w.WellKeyed := by
  induction path generalizing v with
  | nil =>
    obtain rfl := Option.some.inj h
    exact hv
  | cons key rest ih =>
    obtain ⟨m, part, hm, hget, h⟩ := Value.reach?_cons_eq_some_iff.mp h
    exact ih ((WellKeyed.of_entries? hv hm).get? hget) h

/-- At a path, `merged` is what `upper` laid over `lower` should be: the later one wins key by
key. -/
structure LaterWins (lower upper merged : Value) (path : List Scalar) : Prop where
  /-- What the upper one has and is no mapping takes the place of what the lower one has. -/
  replaced : ∀ w, upper.reach? path = some w → w.entries? = none → merged.reach? path = some w
  /-- Nothing is left behind it of what the lower one has. -/
  cut : ∀ front key rest w, path = front ++ key :: rest → upper.reach? front = some w →
    w.entries? = none → merged.reach? path = none
  /-- Where the upper one has nothing, and nothing on the way that is no mapping, the lower one
  stays. -/
  kept : upper.reach? path = none →
    (∀ front key rest w, path = front ++ key :: rest → upper.reach? front = some w →
      w.entries? ≠ none) → merged.reach? path = lower.reach? path
  /-- Two mappings are joined: the new keys of the upper one follow the keys of the lower one. -/
  joined : ∀ w m v old, upper.reach? path = some w → w.entries? = some m →
    lower.reach? path = some v → v.entries? = some old → ∃ whole entries,
      merged.reach? path = some whole ∧ whole.entries? = some entries ∧
        keys entries = keys old ++ (keys m).filter (!contains old ·)
  /-- A mapping of the upper one stands as it is where the lower one has none. -/
  alone : ∀ w m, upper.reach? path = some w → w.entries? = some m →
    (∀ v, lower.reach? path = some v → v.entries? = none) → merged.reach? path = some w

theorem laterWins_merge (hover : override.WellKeyed) (base : Mapping) (path : List Scalar) :
    LaterWins (.map base) (.map override) (.map (merge base override)) path := by
  have hkeyed : (Value.map override).WellKeyed := .mapping rfl hover.distinct hover.values
  constructor
  case replaced =>
    intro w hw hnone
    rw [reach?_merge_of_eq_some hover base hw, mergeValue_of_entries?_none hnone]
  case cut =>
    intro front key rest w hpath hw hnone
    have hnothing : (Value.map override).reach? path = none := by
      rw [hpath, Value.reach?_append, hw, Option.bind_some, Value.reach?_cons,
        Value.part?_of_entries?_none hnone, Option.bind_none]
    have hstops : (Value.map override).stops path = true :=
      Value.stops_iff.mpr ⟨front, key, rest, w, hpath, hw, hnone⟩
    rw [reach?_merge hover, hnothing, hstops]
    rfl
  case kept =>
    intro hnothing hway
    have hstops : ¬(Value.map override).stops path = true := by
      rw [Value.stops_iff]
      rintro ⟨front, key, rest, w, hpath, hw, hnone⟩
      exact hway front key rest w hpath hw hnone
    rw [reach?_merge hover, hnothing]
    exact if_neg hstops
  case joined =>
    intro w m v old hw hm hv hold
    have hreached := reach?_merge_of_eq_some hover base hw
    rw [hv] at hreached
    have hentries : WellKeyed m := .of_entries? (WellKeyed.of_reach? hkeyed hw) hm
    have hbefore : ofValue? (some v) = some old := hold
    exact ⟨_, _, hreached, entries?_mergeValue hbefore hm, keys_merge hentries.distinct old⟩
  case alone =>
    intro w m hw hm hlower
    have hbefore : ofValue? ((Value.map base).reach? path) = none := by
      cases hv : (Value.map base).reach? path with
      | none => rfl
      | some v => exact hlower v hv
    rw [reach?_merge_of_eq_some hover base hw, mergeValue_of_ofValue?_none hbefore]

/-- Laying one mapping over another comes to an end when both do, and then the later one wins key by
key at every depth: at every path, the root among them, the result is what the two have there. -/
theorem layer?_laterWins (hover : override.WellKeyed) (base : Mapping) :
    (base.Ends → override.Ends → ∃ merged, layer? base override = some merged) ∧
      ∀ merged, layer? base override = some merged →
        ∀ path, LaterWins (.map base) (.map override) (.map merged) path := by
  refine ⟨fun hbase hends => ⟨_, layer?_of_ends hbase hends⟩, fun merged hmerged path => ?_⟩
  rw [layer?] at hmerged
  split at hmerged
  · obtain rfl := Option.some.inj hmerged
    exact laterWins_merge hover base path
  · cases hmerged

/-- The later layer has a text where the earlier one has a mapping, and the other way round. -/
theorem laterWins_at_collisions :
    let base : Mapping := [(.str "a", .str "1"),
      (.str "k", .map [(.str "x", .str "2"), (.str "y", .map [(.str "z", .str "3")])])]
    let override : Mapping := [(.null, .str "4"),
      (.str "k", .map [(.str "y", .str "5"), (.str "w", .str "6")]), (.str "a", .map [])]
    override.WellKeyed ∧ ∃ merged, layer? base override = some merged ∧
      (Value.map merged).reach? [.str "k", .str "y"] = some (.str "5") ∧
      (Value.map merged).reach? [.str "k", .str "y", .str "z"] = none ∧
      (Value.map merged).reach? [.str "k", .str "x"] = some (.str "2") ∧
      (Value.map merged).reach? [.str "a"] = some (.map []) ∧
      keys merged = [.str "a", .str "k", .null] := by
  intro base override
  have hleaf (text : String) : (Value.str text).WellKeyed := .other rfl
  have hnested : (Value.map [(.str "y", .str "5"), (.str "w", .str "6")]).WellKeyed :=
    .mapping rfl (by decide) (by simp [hleaf])
  have hempty : (Value.map []).WellKeyed := .mapping rfl List.Pairwise.nil nofun
  have hover : override.WellKeyed := ⟨by decide, by simp [override, hleaf, hnested, hempty]⟩
  obtain ⟨merged, hmerged⟩ : ∃ merged, layer? base override = some merged := ⟨_, rfl⟩
  have hwins := (layer?_laterWins hover base).2 merged hmerged
  have hwhole := (hwins []).joined _ _ _ _ rfl rfl rfl rfl
  refine ⟨hover, merged, hmerged, (hwins _).replaced _ rfl rfl, ?_, ?_, ?_, ?_⟩
  · exact (hwins _).cut [.str "k", .str "y"] (.str "z") [] _ rfl rfl rfl
  · have hway : (Value.map override).stops [.str "k", .str "x"] = false := rfl
    refine (hwins _).kept rfl fun front key rest w hpath hw hnone => ?_
    rw [Value.stops_iff.mpr ⟨front, key, rest, w, hpath, hw, hnone⟩] at hway
    cases hway
  · refine (hwins _).alone _ _ rfl rfl fun v hv => ?_
    obtain rfl := Option.some.inj hv
    rfl
  · obtain ⟨_, entries, hroot, hentries, hkeys⟩ := hwhole
    obtain rfl := Option.some.inj hroot
    obtain rfl := Option.some.inj hentries
    exact hkeys

end Mapping

end QueryTemplates
