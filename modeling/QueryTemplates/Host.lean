import QueryTemplates.Markup.Value
import QueryTemplates.Text.Styles

/-!
# What the program runs on

The program reads its configuration with a reader of markup that it does not bring along, and hands
its output to a stream that may leave something out or refuse a text. How deep values may be depends
on the stack of the machine, and what can be the name of a file on its file system. All this is a
parameter, `Host`. What is proved about command lines is proved for any host; what is documented of
hosts is a field.

`SPEC_FULL.md` names the reader in §10.3 (lines 166–167) and the command line in §13 (lines
213–219).
-/

namespace QueryTemplates

/-- A failure that comes from the host: its category and its words. -/
structure HostFailure where
  category : Category
  message : String

/-- The surroundings of a command line. -/
class Host where
  /-- The value that a document describes. -/
  document : String → Except HostFailure Value
  /-- The stack suffices to read the value as a configuration. -/
  canRead : Value → Bool
  /-- A file can have the name. -/
  checkName : String → Except HostFailure Unit
  /-- The text as the console shows it. -/
  shown : String → String
  /-- The text as it is written to the output. -/
  written : String → Except HostFailure String
  /-- Only control sequences are left out of the output; these begin with an escape character. -/
  written_of_plain : ∀ s out, '\x1b' ∉ s.toList → written s = .ok out → out = s

/-- The choices of the reader that runs and examples use. -/
def MarkupOptions.usual : MarkupOptions where
  half _ := '\uFFFD'
  deepest := 480

/-- A host that refuses no text and no name, and whose stack always suffices. Runs and examples are
on this host. -/
instance Host.usual : Host where
  document text := (documentValue .usual text).mapError fun e => ⟨e.category, e.message⟩
  canRead _ := true
  checkName _ := .ok ()
  shown := unstyled
  written s := .ok (unstyled s)
  written_of_plain s out hplain h := by
    rw [← Except.ok.inj h, unstyled_of_notMem hplain]

end QueryTemplates
