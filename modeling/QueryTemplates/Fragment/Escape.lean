/-!
# Escaping reserved characters

The query syntax reserves nineteen characters. Escaping puts a backslash in front of each of them
and leaves every other character as it is.

Models `SPEC_FULL.md` §6 (lines 125–127).
-/

namespace QueryTemplates

/-- The characters with a meaning in the query syntax. -/
def reserved : List Char :=
  ['+', '-', '&', '|', '!', '(', ')', '{', '}', '[', ']', '^', '\x22', '~', '*', '?', ':', '\\',
   '/']

/-- The character has a meaning in the query syntax. `SPEC_FULL.md` §6 (line 126). -/
def isReserved (c : Char) : Bool := reserved.contains c

/-- A character as it stands in escaped text. -/
def escapeChar (c : Char) : List Char := if isReserved c then ['\\', c] else [c]

/-- The escaped form of a list of characters. -/
def escapeChars (cs : List Char) : List Char := cs.flatMap escapeChar

/-- The escaped form of a text. `SPEC_FULL.md` §6 (lines 125–127). -/
def escape (s : String) : String := String.ofList (escapeChars s.toList)

/-- Characters are escaped one by one. -/
@[simp] theorem escapeChars_cons (c : Char) (cs : List Char) :
    escapeChars (c :: cs) = escapeChar c ++ escapeChars cs := rfl

@[simp] theorem escapeChars_append (cs ds : List Char) :
    escapeChars (cs ++ ds) = escapeChars cs ++ escapeChars ds := by
  simp [escapeChars]

@[simp] theorem toList_escape (s : String) : (escape s).toList = escapeChars s.toList := by
  simp [escape]

/-- Escaping goes through joined texts part by part. -/
theorem escape_append (s t : String) : escape (s ++ t) = escape s ++ escape t := by
  simp [escape]

end QueryTemplates
