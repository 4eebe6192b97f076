import QueryTemplates.Markup.Cursor
import QueryTemplates.Markup.Error
import QueryTemplates.Markup.Token.Basic
import QueryTemplates.Markup.Token.Scalar
import QueryTemplates.Text.Utf8

/-!
# Names, tags and directives of documents

What stands in front of nodes and documents: anchors and aliases, tags with their handles, and
directives.
-/

namespace QueryTemplates

/-- The name of an anchor or alias behind its mark. -/
def anchorName (c : Cursor) : Except DocumentError (String × Cursor) :=
  let (name, behind) := c.next.span isNameChar
  let ends := endsWord behind.peek ||
    (behind.peek.map fun ch =>
      ['?', ':', ',', ']', '}', '%', '@', '\x60'].contains ch).getD false
  if name.isEmpty || !ends then .error (.markup .badName)
  else .ok (String.ofList name, behind)

/-- The characters of a tag besides letters, digits and those escaped. -/
def tagMarks : List Char :=
  ['-', ';', '/', '?', ':', '@', '&', '=', '+', '$', ',', '_', '.', '!', '~', '*', '\x27', '(', ')',
    '[', ']']

/-- The character stands for itself in a tag. -/
def isTagChar (c : Char) : Bool := c.isAlphanum || tagMarks.contains c

/-- The bytes that percent escapes in front give, and what follows them. -/
def percentBytes : List Char → Except DocumentError (List UInt8 × List Char)
  | '%' :: a :: b :: rest =>
    if isHexDigit a && isHexDigit b then do
      let (bytes, behind) ← percentBytes rest
      return (UInt8.ofNat (hexValue [a, b]) :: bytes, behind)
    else .error (.markup .badTag)
  | '%' :: _ => .error (.markup .badTag)
  | rest => .ok ([], rest)

/-- The characters of a tag in front, escapes read, and how many characters they take. -/
def tagText (text : List Char) (length : Nat) (cs : List Char) :
    Except DocumentError (List Char × Nat) :=
  match cs with
  | [] => .ok (text, length)
  | ch :: rest =>
    if isTagChar ch then tagText (text ++ [ch]) (length + 1) rest
    else if ch != '%' then .ok (text, length)
    else do
      let (bytes, behind) ← percentBytes (ch :: rest)
      match decodeUtf8 bytes with
      | .error _ => throw (.markup .badTag)
      | .ok s =>
        if _shorter : behind.length < rest.length + 1 then
          tagText (text ++ s.toList) (length + (rest.length + 1 - behind.length)) behind
        else throw (.markup .badTag)
termination_by cs.length

/-- The rest of a tag in front; it has a character at least. -/
def tagSuffix (c : Cursor) : Except DocumentError (String × Cursor) := do
  let (text, length) ← tagText [] 0 c.rest
  if length = 0 then throw (.markup .badTag)
  return (String.ofList text, c.advance length)

/-- The handle of a tag in front: one exclamation mark before a blank, or two around a name. -/
def tagHandle (c : Cursor) : Except DocumentError (String × Cursor) :=
  if c.peek != some '!' then .error (.markup .badTag)
  else if c.peekAt 1 == some ' ' then .ok ("!", c.next)
  else
    let (name, behind) := c.next.span isNameChar
    if behind.peek != some '!' then .error (.markup .badTag)
    else .ok ("!" ++ String.ofList name ++ "!", behind.next)

/-- The tag in front. -/
def writtenTag (c : Cursor) : Except DocumentError (WrittenTag × Cursor) := do
  let (written, behind) ←
    if c.peekAt 1 == some '<' then do
      let (suffix, behind) ← tagSuffix (c.advance 2)
      if behind.peek != some '>' then throw (.markup .badTag)
      pure ((⟨none, suffix⟩ : WrittenTag), behind.next)
    else if endsWord (c.peekAt 1) then pure ((⟨none, "!"⟩ : WrittenTag), c.next)
    else
      let word := c.next.rest.takeWhile fun ch => !endsField (some ch)
      let (handle, behind) ← if word.contains '!' then tagHandle c else pure ("!", c.next)
      let (suffix, behind) ← tagSuffix behind
      pure ((⟨some handle, suffix⟩ : WrittenTag), behind)
  if !endsField behind.peek then throw (.markup .badTag)
  return (written, behind)

/-- The decimal number in front. -/
def directiveNumber (c : Cursor) : Except DocumentError (Nat × Cursor) :=
  let (digits, behind) := c.span Char.isDigit
  if digits.isEmpty then .error (.markup .badDirective)
  else if digitLimit < digits.length then .error (.longInteger digits.length)
  else .ok (digits.foldl (fun n d => n * 10 + (d.toNat - '0'.toNat)) 0, behind)

/-- A version in front: two numbers around a point. -/
def versionDirective (c : Cursor) : Except DocumentError (Directive × Cursor) := do
  let (major, behind) ← directiveNumber c.skipBlanks
  if behind.peek != some '.' then throw (.markup .badDirective)
  let (minor, behind) ← directiveNumber behind.next
  if !endsField behind.peek then throw (.markup .badDirective)
  return (.version major minor, behind)

/-- A handle in front and the beginning of tags it stands for. -/
def handleDirective (c : Cursor) : Except DocumentError (Directive × Cursor) := do
  let (name, behind) ← tagHandle c.skipBlanks
  if behind.peek != some ' ' then throw (.markup .badDirective)
  let (expansion, behind) ← tagSuffix behind.skipBlanks
  if !endsField behind.peek then throw (.markup .badDirective)
  return (.handle name expansion, behind)

/-- The directive in front, and the cursor behind its line. -/
def directiveLine (c : Cursor) : Except DocumentError (Directive × Cursor) := do
  let (name, behind) := c.next.span isNameChar
  if name.isEmpty || !endsField behind.peek then throw (.markup .badDirective)
  let (directive, behind) ←
    match String.ofList name with
    | "YAML" => versionDirective behind
    | "TAG" => handleDirective behind
    | _ => pure (Directive.other, behind.skip (!isBreak ·))
  let behind := behind.skipBlanks.skipComment
  if !endsLine behind.peek then throw (.markup .badDirective)
  return (directive, (behind.lineBreak?.map (·.2)).getD behind)

end QueryTemplates
