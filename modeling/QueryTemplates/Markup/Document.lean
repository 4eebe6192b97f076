import QueryTemplates.Markup.Implicit
import QueryTemplates.Markup.Token.Stream

/-!
# Nodes from tokens

The tokens of a document become a table of nodes and the number of the one at the root. Collections
are read entry by entry; a missing entry is an empty scalar. An alias is the number of the node that
its anchor names, which may still be incomplete. Where the tokens stop because reading them failed,
that failure is the outcome.

Documents are those of `SPEC_FULL.md` §10.3 (lines 166–167).
-/

namespace QueryTemplates

/-- What a reader of documents is free to choose. -/
structure MarkupOptions where
  /-- The characters that stand for halves of surrogate pairs. -/
  half : Nat → Char
  /-- How many collections may be inside each other. -/
  deepest : Nat

/-- What is left to read, and what was defined so far. -/
structure NodeReader where
  tokens : List Token
  /-- How many collections may be open. -/
  deepest : Nat
  /-- Why there are no more tokens. -/
  failure : Option DocumentError
  handles : List (String × String) := []
  table : NodeTable := {}
  /-- The nodes of the anchors that were seen. -/
  anchors : List (String × Nat) := []
  /-- How many collections are open. -/
  depth : Nat := 0

/-- A part of a document and the reader behind it. -/
abbrev NodeReader.Part (α : Type) := α × NodeReader

namespace NodeReader

/-- A place in the grammar where a node is wanted. -/
inductive Position where
  /-- Inside brackets. -/
  | flow
  /-- A block. -/
  | block
  /-- The key or value of a block mapping, where a sequence needs no indentation. -/
  | entry
deriving DecidableEq

/-- The next token. -/
def peek (r : NodeReader) : Except DocumentError Token :=
  match r.tokens with
  | token :: _ => .ok token
  | [] => .error (r.failure.getD (.markup .noContent))

/-- The reader behind the next token. -/
def next (r : NodeReader) : NodeReader := { r with tokens := r.tokens.tail }

/-- A new node. -/
def add (r : NodeReader) (node : MarkupNode) : Part Nat :=
  let (number, table) := r.table.add node
  (number, { r with table })

/-- A scalar without text. -/
def emptyScalar (r : NodeReader) : Part Nat := r.add ⟨plainTag "", .scalar ""⟩

/-- The handles that are always known. -/
def commonHandles : List (String × String) := [("!", "!"), ("!!", Tag.commonPart)]

/-- The full name of a tag. -/
def tagName (r : NodeReader) (written : WrittenTag) : Except DocumentError String :=
  match written.handle with
  | none => .ok written.suffix
  | some handle =>
    match r.handles.lookup handle with
    | some expansion => .ok (expansion ++ written.suffix)
    | none => .error (.markup .unknownHandle)

/-- What stands in front of a node. -/
structure Properties where
  anchor : Option String := none
  tag : Option String := none

/-- The tag that was given; a single exclamation mark is none. -/
def Properties.givenTag (properties : Properties) : Option Tag :=
  match properties.tag with
  | none => none
  | some "!" => none
  | some name => some (.ofName name)

/-- The anchor and the tag in front of a node, in either order. -/
def readProperties (r : NodeReader) : Except DocumentError (Part Properties) := do
  let withTag (written : WrittenTag) (anchor : Option String) (r : NodeReader) :
      Except DocumentError (Part Properties) := do
    return (⟨anchor, some (← r.tagName written)⟩, r)
  match ← r.peek with
  | .anchor name =>
    match ← r.next.peek with
    | .tag written => withTag written (some name) r.next.next
    | _ => return (⟨some name, none⟩, r.next)
  | .tag written =>
    match ← r.next.peek with
    | .anchor name => withTag written (some name) r.next.next
    | _ => withTag written none r.next
  | _ => return ({}, r)

/-- A new node, which an anchor in front of it names. -/
def begin (r : NodeReader) (anchor : Option String) (node : MarkupNode) :
    Except DocumentError (Part Nat) :=
  let (number, r) := r.add node
  match anchor with
  | none => .ok (number, r)
  | some name =>
    if (r.anchors.lookup name).isSome then .error (.markup .repeatedAnchor)
    else .ok (number, { r with anchors := (name, number) :: r.anchors })

/-- A new collection, whose content `read` gives. -/
def collection (r : NodeReader) (anchor : Option String) (tag : Tag)
    (read : NodeReader → Except DocumentError (Part NodeContent)) :
    Except DocumentError (Part Nat) := do
  let (number, r) ← r.begin anchor ⟨tag, .scalar ""⟩
  if r.deepest ≤ r.depth then throw .endless
  let (content, r) ← read { r with depth := r.depth + 1 }
  return (number, { r with table := r.table.put number ⟨tag, content⟩, depth := r.depth - 1 })

/-- The tag of a scalar: the one given, or the one of its form if it is plain or was marked to be
read by form. -/
def scalarTag (properties : Properties) (text : String) (plain : Bool) : Tag :=
  match properties.givenTag with
  | some tag => tag
  | none => if plain || properties.tag.isSome then plainTag text else .str

mutual

/-- The node in front. -/
def node (fuel : Nat) (position : Position) (r : NodeReader) : Except DocumentError (Part Nat) :=
  match fuel with
  | 0 => .error (.markup .noContent)
  | fuel + 1 => do
    match ← r.peek with
    | .alias name =>
      match r.anchors.lookup name with
      | some number => return (number, r.next)
      | none => throw (.markup .unknownAlias)
    | _ =>
      let (properties, r) ← r.readProperties
      content fuel position properties (← r.peek) r

/-- The node behind its properties, of which `token` is the first. -/
def content (fuel : Nat) (position : Position) (properties : Properties) (token : Token)
    (r : NodeReader) : Except DocumentError (Part Nat) :=
  match fuel with
  | 0 => .error (.markup .noContent)
  | fuel + 1 =>
    let sequence (read : NodeReader → Except DocumentError (Part (List Nat))) (r : NodeReader) :
        Except DocumentError (Part Nat) :=
      r.collection properties.anchor (properties.givenTag.getD .sequence) fun r => do
        let (items, r) ← read r
        return (.sequence items, r)
    let mapping (read : NodeReader → Except DocumentError (Part (List (Nat × Nat)))) :
        Except DocumentError (Part Nat) :=
      r.next.collection properties.anchor (properties.givenTag.getD .mapping) fun r => do
        let (entries, r) ← read r
        return (.mapping entries, r)
    match token, position with
    | .blockEntry, .entry => sequence (flatItems fuel) r
    | .scalar text plain, _ =>
      r.next.begin properties.anchor ⟨scalarTag properties text plain, .scalar text⟩
    | .flowSequenceStart, _ => sequence (flowItems fuel true) r.next
    | .flowMappingStart, _ => mapping (flowEntries fuel true)
    | .blockSequenceStart, .block => sequence (blockItems fuel) r.next
    | .blockSequenceStart, .entry => sequence (blockItems fuel) r.next
    | .blockMappingStart, .block => mapping (blockEntries fuel)
    | .blockMappingStart, .entry => mapping (blockEntries fuel)
    | _, _ =>
      if properties.anchor.isNone && properties.tag.isNone then .error (.markup .noContent)
      else r.begin properties.anchor ⟨properties.givenTag.getD (plainTag ""), .scalar ""⟩

/-- The items of a block sequence up to its end. -/
def blockItems (fuel : Nat) (r : NodeReader) : Except DocumentError (Part (List Nat)) :=
  match fuel with
  | 0 => .error (.markup .noContent)
  | fuel + 1 => do
    match ← r.peek with
    | .blockEntry =>
      let r := r.next
      let (item, r) ← match ← r.peek with
        | .blockEntry | .blockEnd => pure r.emptyScalar
        | _ => node fuel .block r
      let (items, r) ← blockItems fuel r
      return (item :: items, r)
    | .blockEnd => return ([], r.next)
    | _ => throw (.markup .noBlockEnd)

/-- The items of a sequence without indentation. -/
def flatItems (fuel : Nat) (r : NodeReader) : Except DocumentError (Part (List Nat)) :=
  match fuel with
  | 0 => .error (.markup .noContent)
  | fuel + 1 => do
    match ← r.peek with
    | .blockEntry =>
      let r := r.next
      let (item, r) ← match ← r.peek with
        | .blockEntry | .key | .value | .blockEnd => pure r.emptyScalar
        | _ => node fuel .block r
      let (items, r) ← flatItems fuel r
      return (item :: items, r)
    | _ => return ([], r)

/-- The entries of a block mapping up to its end. -/
def blockEntries (fuel : Nat) (r : NodeReader) :
    Except DocumentError (Part (List (Nat × Nat))) :=
  match fuel with
  | 0 => .error (.markup .noContent)
  | fuel + 1 => do
    match ← r.peek with
    | .key =>
      let (key, r) ← blockPart fuel r.next
      let (value, r) ← match ← r.peek with
        | .value => blockPart fuel r.next
        | _ => pure r.emptyScalar
      let (entries, r) ← blockEntries fuel r
      return ((key, value) :: entries, r)
    | .blockEnd => return ([], r.next)
    | _ => throw (.markup .noBlockEnd)

/-- The key or value of a block mapping. -/
def blockPart (fuel : Nat) (r : NodeReader) : Except DocumentError (Part Nat) :=
  match fuel with
  | 0 => .error (.markup .noContent)
  | fuel + 1 => do
    match ← r.peek with
    | .key | .value | .blockEnd => return r.emptyScalar
    | _ => node fuel .entry r

/-- The items of a bracketed sequence up to its end. -/
def flowItems (fuel : Nat) (first : Bool) (r : NodeReader) :
    Except DocumentError (Part (List Nat)) :=
  match fuel with
  | 0 => .error (.markup .noContent)
  | fuel + 1 => do
    match ← r.peek with
    | .flowSequenceEnd => return ([], r.next)
    | token =>
      let r ← match first, token with
        | true, _ => pure r
        | false, .flowEntry => pure r.next
        | false, _ => throw (.markup .noSeparator)
      match ← r.peek with
      | .flowSequenceEnd => return ([], r.next)
      | .key =>
        let (entry, r) ← flowPair fuel r.next
        let (pair, r) := r.add ⟨.mapping, .mapping [entry]⟩
        let (items, r) ← flowItems fuel false r
        return (pair :: items, r)
      | _ =>
        let (item, r) ← node fuel .flow r
        let (items, r) ← flowItems fuel false r
        return (item :: items, r)

/-- The one entry of a mapping without brackets inside a bracketed sequence. -/
def flowPair (fuel : Nat) (r : NodeReader) :
    Except DocumentError (Part (Nat × Nat)) :=
  match fuel with
  | 0 => .error (.markup .noContent)
  | fuel + 1 => do
    let (key, r) ← match ← r.peek with
      | .value | .flowEntry | .flowSequenceEnd => pure r.emptyScalar
      | _ => node fuel .flow r
    let (value, r) ← match ← r.peek with
      | .value => match ← r.next.peek with
        | .flowEntry | .flowSequenceEnd => pure r.next.emptyScalar
        | _ => node fuel .flow r.next
      | _ => pure r.emptyScalar
    return ((key, value), r)

/-- The entries of a bracketed mapping up to its end. -/
def flowEntries (fuel : Nat) (first : Bool) (r : NodeReader) :
    Except DocumentError (Part (List (Nat × Nat))) :=
  match fuel with
  | 0 => .error (.markup .noContent)
  | fuel + 1 => do
    match ← r.peek with
    | .flowMappingEnd => return ([], r.next)
    | token =>
      let r ← match first, token with
        | true, _ => pure r
        | false, .flowEntry => pure r.next
        | false, _ => throw (.markup .noSeparator)
      match ← r.peek with
      | .flowMappingEnd => return ([], r.next)
      | .key =>
        let r := r.next
        let (key, r) ← match ← r.peek with
          | .value | .flowEntry | .flowMappingEnd => pure r.emptyScalar
          | _ => node fuel .flow r
        let (value, r) ← match ← r.peek with
          | .value => match ← r.next.peek with
            | .flowEntry | .flowMappingEnd => pure r.next.emptyScalar
            | _ => node fuel .flow r.next
          | _ => pure r.emptyScalar
        let (entries, r) ← flowEntries fuel false r
        return ((key, value) :: entries, r)
      | _ =>
        let (key, r) ← node fuel .flow r
        let (value, r) := r.emptyScalar
        let (entries, r) ← flowEntries fuel false r
        return ((key, value) :: entries, r)

end

/-- The directives in front of a document, and whether a version was among them. -/
def readDirectives (versioned : Bool) (r : NodeReader) :
    List Token → Except DocumentError NodeReader
  | .directive (.version major _) :: rest =>
    if versioned then .error (.markup .repeatedDirective)
    else if major != 1 then .error (.markup .wrongVersion)
    else readDirectives true r rest
  | .directive (.handle name expansion) :: rest =>
    if (r.handles.lookup name).isSome then .error (.markup .repeatedDirective)
    else readDirectives versioned { r with handles := (name, expansion) :: r.handles } rest
  | .directive .other :: rest => readDirectives versioned r rest
  | tokens => .ok { r with tokens, handles := r.handles ++ commonHandles }

/-- The reader behind the marks that end a document. -/
def skipDocumentEnds (r : NodeReader) : NodeReader :=
  { r with tokens := r.tokens.dropWhile fun token => match token with
    | .documentEnd => true
    | _ => false }

/-- The root of the document in front. -/
def root (r : NodeReader) :
    Except DocumentError (Part Nat) := node (4 * r.tokens.length + 8) .block r

/-- The reader behind the directives and the mark that begin a document. -/
def beginDocument (r : NodeReader) : Except DocumentError NodeReader := do
  let r ← readDirectives false { r with handles := [] } r.tokens
  match ← r.peek with
  | .documentStart => return r.next
  | _ => throw (.markup .noDocumentStart)

/-- The document in front, behind its directives and the mark of its beginning. -/
def markedDocument (r : NodeReader) : Except DocumentError (Part Nat) := do
  let r ← r.beginDocument
  match ← r.peek with
  | .directive _ | .documentStart | .documentEnd | .streamEnd => return r.emptyScalar
  | _ => r.root

/-- Nothing follows the document. -/
def checkEnd (r : NodeReader) : Except DocumentError Unit := do
  let r := r.skipDocumentEnds
  match ← r.peek with
  | .streamEnd => return
  | _ =>
    let _ ← r.beginDocument
    throw (.markup .severalDocuments)

/-- The only document, if there is one. -/
def onlyDocument (r : NodeReader) : Except DocumentError (Option NodeGraph) := do
  match ← r.peek with
  | .streamEnd => return none
  | token =>
    let (root, r) ← match token with
      | .directive _ | .documentStart => r.markedDocument
      | _ => ({ r with handles := commonHandles } : NodeReader).root
    r.checkEnd
    return some ⟨r.table, root⟩

end NodeReader

/-- The nodes of a document; a text without content has none. -/
def readDocument (options : MarkupOptions) (text : String) :
    Except DocumentError (Option NodeGraph) :=
  let (tokens, failure) := readTokens options.half text
  NodeReader.onlyDocument { tokens, failure, deepest := options.deepest }

end QueryTemplates
