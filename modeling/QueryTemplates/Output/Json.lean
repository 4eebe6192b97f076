/-!
# JSON text

Text in JSON stands between double quotes. The quote, the backslash and control characters are
escaped; every other character stands as it is.

Models `SPEC_FULL.md` §13 (lines 213–215).
-/

namespace QueryTemplates

/-- The digit of a value below sixteen. -/
private def hexDigit (n : Nat) : Char := Nat.digitChar (n % 16)

/-- A character between the quotes of a JSON text. -/
def jsonChar (c : Char) : List Char :=
  if c = '\x22' then ['\\', '\x22']
  else if c = '\\' then ['\\', '\\']
  else if c = '\n' then ['\\', 'n']
  else if c = '\r' then ['\\', 'r']
  else if c = '\t' then ['\\', 't']
  else if c = '\x08' then ['\\', 'b']
  else if c = '\x0c' then ['\\', 'f']
  else if c.toNat < 0x20 then
    ['\\', 'u', '0', '0', hexDigit (c.toNat / 16), hexDigit c.toNat]
  else [c]

/-- Characters as a JSON text. -/
def jsonChars (cs : List Char) : List Char := '\x22' :: cs.flatMap jsonChar ++ ['\x22']

/-- A text in JSON. -/
def jsonText (s : String) : String := String.ofList (jsonChars s.toList)

end QueryTemplates
