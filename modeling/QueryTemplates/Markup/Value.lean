import QueryTemplates.Markup.Document
import QueryTemplates.Markup.Draft

/-!
# Values of documents

Drafts become values once all their parts are values. Where a collection leads back to itself none
of its parts can be the first; such collections become loops: they are laid out level by level from
the bottom, where they end without an answer.

Documents are those of `SPEC_FULL.md` §10.3 (lines 166–167).
-/

namespace QueryTemplates

namespace Draft

/-- The value of a draft, if all its parts have values; `wrap` says what becomes of the pair with
a number. -/
def value? (part? : Nat → Option Value) (wrap : Nat → Value → Value) : Draft → Option Value
  | .scalar s => some (.scalar s)
  | .list items => .list <$> items.mapM part?
  | .pairs items => .list <$> items.zipIdx.mapM fun ((key, value), index) => do
    return wrap index (.pair (← part? key) (← part? value))
  | .set members => some (.set members)
  | .map entries => do
    let entries ← entries.mapM fun (key, value) => do return (key, ← part? value)
    return .map (Mapping.ofEntries entries)

end Draft

/-- The values that are known, by the numbers of their nodes. -/
structure KnownValues where
  values : Array (Option Value)

namespace KnownValues

/-- The value of a node, if it is known. -/
def get? (known : KnownValues) (number : Nat) : Option Value := (known.values[number]?).join

/-- The known values with that of a node, if there is one. -/
def put (known : KnownValues) (number : Nat) : Option Value → KnownValues
  | some v => ⟨known.values.setIfInBounds number (some v)⟩
  | none => known

/-- The values that follow from known ones by going through the drafts once, the last one first. -/
def extend (known : KnownValues) (drafts : List (Nat × Draft)) : KnownValues :=
  drafts.foldl (fun known (number, draft) =>
    known.put number (draft.value? known.get? fun _ pair => pair)) known

/-- The drafts whose values are not known. -/
def unknown (known : KnownValues) (drafts : List (Nat × Draft)) : List (Nat × Draft) :=
  drafts.filter fun (number, _) => (known.get? number).isNone

/-- The values that follow from known ones, and the drafts that remain; every round but the last
adds a value at least, so there are no more rounds than drafts. -/
def extendAll (rounds : Nat) (known : KnownValues) (drafts : List (Nat × Draft)) :
    KnownValues × List (Nat × Draft) :=
  match rounds with
  | 0 => (known, drafts)
  | rounds + 1 =>
    let known := known.extend drafts
    let rest := known.unknown drafts
    if rest.length = drafts.length then (known, drafts) else extendAll rounds known rest

/-- How many levels of a loop are laid out: more than any reading goes through. -/
def loopLevels : Nat := 1000

/-- The values of drafts that lead back to themselves, one level above those that are known for
them. -/
def raise (loops : List (Nat × Draft)) (known : KnownValues) : KnownValues :=
  loops.foldl (fun raised (number, draft) =>
    let content? := draft.value? known.get? fun index => Value.loop ⟨number, some index⟩
    raised.put number (content?.map (Value.loop ⟨number, none⟩))) known

/-- The values of drafts that lead back to themselves, laid out for a number of levels. -/
def raiseAll (loops : List (Nat × Draft)) : Nat → KnownValues → KnownValues
  | 0, known => known
  | levels + 1, known => raiseAll loops levels (raise loops known)

end KnownValues

/-- The values of drafts by the numbers of their nodes. -/
def valuesOfDrafts (drafts : Array (Option Draft)) : KnownValues :=
  let numbered := drafts.toList.zipIdx.filterMap fun (draft, number) => draft.map (number, ·)
  let nothing : KnownValues := ⟨Array.replicate drafts.size none⟩
  let (known, loops) := nothing.extendAll numbered.length numbered.reverse
  if loops.isEmpty then known
  else
    let ends := loops.foldl (fun known (number, _) => known.put number (some .endless)) known
    KnownValues.raiseAll loops KnownValues.loopLevels ends

/-- The value of a document; a text without content is null. -/
def documentValue (options : MarkupOptions) (text : String) : Except DocumentError Value := do
  match ← readDocument options text with
  | some graph => return ((valuesOfDrafts (← graph.drafts)).get? graph.root).getD .null
  | none => return .null

end QueryTemplates
