/-!
# Categories of failure

Every cause of failure belongs to a category, which tells a caller what to do about it without
reading the message.

Models `SPEC_FULL.md` §7 (lines 129–133) and §10.2 (lines 159–163).
-/

namespace QueryTemplates

/-- The category of a failure. -/
inductive Category where
  /-- A value of the wrong kind. -/
  | wrongType
  /-- A value of the right kind that does not fit. -/
  | badValue
  /-- A mapping without the key asked for. -/
  | missingKey
  /-- A sequence shorter than the index asked for. -/
  | missingIndex
  /-- A value without the attribute asked for. -/
  | missingAttribute
  /-- A number beyond a fixed range. -/
  | overflow
  /-- Bytes that are no text. -/
  | undecodable
  /-- Markup that does not follow its grammar. -/
  | markup
  /-- Something that leads back to itself without an end. -/
  | recursion
  /-- An option of the command line that cannot be read. -/
  | option
  /-- A path that leads through something that is no directory. -/
  | notDirectory
  /-- A directory where a file is wanted. -/
  | isDirectory
  /-- A path that leads nowhere. -/
  | noFile
  /-- A file where a directory is wanted. -/
  | fileExists
  /-- Any other refusal by the file system. -/
  | system
deriving DecidableEq

/-- The words for a failure of the category `recursion`; `place` tells where it was noticed. -/
def recursionMessage (place : String) : String := "maximum recursion depth exceeded" ++ place

/-- Where following values that lead back to themselves is noticed: while kinds are compared. -/
def inComparison : String := " in comparison"

end QueryTemplates
