/-!
# Tokens of documents

A document is read as a row of tokens: marks that open and close collections, scalars, and what
stands in front of nodes. Where blocks begin and end is decided by indentation and becomes tokens
too.
-/

namespace QueryTemplates

/-- A line that tells how to read a document. -/
inductive Directive where
  | version (major minor : Nat)
  /-- A handle stands for the beginning of tags. -/
  | handle (name expansion : String)
  | other

/-- A tag as written: an optional handle and what follows it. -/
structure WrittenTag where
  handle : Option String
  suffix : String

/-- A token of a document. -/
inductive Token where
  | directive (content : Directive)
  | documentStart
  | documentEnd
  | streamEnd
  | blockSequenceStart
  | blockMappingStart
  | blockEnd
  | flowSequenceStart
  | flowSequenceEnd
  | flowMappingStart
  | flowMappingEnd
  | blockEntry
  | flowEntry
  | key
  | value
  | alias (name : String)
  | anchor (name : String)
  | tag (written : WrittenTag)
  | scalar (text : String) (plain : Bool)

end QueryTemplates
