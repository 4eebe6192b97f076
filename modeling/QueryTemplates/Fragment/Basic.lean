import QueryTemplates.Fragment.Escape
import QueryTemplates.Number.Basic

/-!
# Query fragments

A fragment is a text of the query syntax. This module writes each kind of fragment from parts that
are known to be fit: terms in quotes, fields, ranges, numeric suffixes, and fragments joined by an
operator or enclosed by delimiters.

Models `SPEC_FULL.md` §4 (lines 50–101).
-/

namespace QueryTemplates

/-- Fragments joined by an operator between each adjacent pair. `SPEC_FULL.md` §4.4 (lines
70–73). -/
structure Joiner where
  operator : String

/-- Fragments one after the other between two delimiters. `SPEC_FULL.md` §4.5 (line 77). -/
structure Enclosure where
  opening : String
  closing : String

/-- The fragments with the operator between them, blanks around it. -/
def Joiner.write (joiner : Joiner) (fragments : List String) : String :=
  (" " ++ joiner.operator ++ " ").intercalate fragments

/-- The fragments with blanks between them and the delimiters around them. -/
def Enclosure.write (enclosure : Enclosure) (fragments : List String) : String :=
  enclosure.opening ++ " " ++ " ".intercalate fragments ++ " " ++ enclosure.closing

/-- A number behind a suffix mark: a whole number without a point. `SPEC_FULL.md` §3 (lines
47–48). -/
def Number.suffix (n : Number) : String :=
  match n with
  | .int k => toString k
  | .float x => match x.toInt? with
    | some k => toString k
    | none => x.text

namespace Fragment

/-- A word or phrase in quotes, its reserved characters escaped. `SPEC_FULL.md` §4.2 (line 64). -/
def term (words : String) : String := "\"" ++ escape words ++ "\""

/-- A fragment that holds for one field. `SPEC_FULL.md` §4.3 (line 67). -/
def field (name query : String) : String := name ++ ": " ++ query

/-- The delimiters of a range: square on a side that is included, curly on one that is not. -/
def rangeEnclosure (includeStart includeStop : Bool) : Enclosure :=
  ⟨if includeStart then "[" else "\x7b", if includeStop then "]" else "\x7d"⟩

/-- What lies between two bounds. `SPEC_FULL.md` §4.6 (lines 80–82). -/
def range (start stop : String) (includeStart includeStop : Bool) : String :=
  (rangeEnclosure includeStart includeStop).write [start ++ " TO " ++ stop]

/-- A fragment to be matched approximately. `SPEC_FULL.md` §4.7 (lines 86–87). -/
def fuzzy (query : String) : Option Number → String
  | none => query ++ "~"
  | some similarity => query ++ "~" ++ similarity.suffix

/-- Two words within a distance of each other. `SPEC_FULL.md` §4.8 (lines 90–91). -/
def proximity (first second : String) (distance : Number) : String :=
  "\"" ++ first ++ " " ++ second ++ "\"~" ++ distance.suffix

/-- A fragment that counts more. `SPEC_FULL.md` §4.9 (line 94). -/
def boost (query : String) (factor : Number) : String := query ++ "^" ++ factor.suffix

/-- A fragment that must match. `SPEC_FULL.md` §4.10 (line 97). -/
def required (query : String) : String := "+" ++ query

/-- Fragments of which one is to match. -/
def anyOf : Joiner := ⟨"OR"⟩

/-- Fragments that are all to match. -/
def allOf : Joiner := ⟨"AND"⟩

/-- Fragments of which only the first is to match. -/
def butNot : Joiner := ⟨"NOT"⟩

/-- Fragments that stand together. `SPEC_FULL.md` §4.5 (line 77). -/
def group : Enclosure := ⟨"(", ")"⟩

end Fragment

end QueryTemplates
