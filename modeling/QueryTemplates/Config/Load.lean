import QueryTemplates.Config.Basic
import QueryTemplates.Host
import QueryTemplates.Text.Utf8

/-!
# Loading configurations

A configuration is loaded from the bytes of a document: they are decoded, the document becomes a
mapping, and the mapping is read as a configuration. A document whose value counts as false is an
empty mapping.

Models `SPEC_FULL.md` §10.3 (lines 165–178).
-/

namespace QueryTemplates

/-- Why bytes are no configuration. -/
inductive LoadError where
  | decode (cause : Utf8Error)
  | document (cause : HostFailure)
  /-- Reading the mapping exhausts the stack. -/
  | tooDeep
  | config (cause : ConfigError)

/-- The failure in words. -/
def LoadError.message : LoadError → String
  | .decode cause => cause.message
  | .document cause => cause.message
  | .tooDeep => recursionMessage ""
  | .config cause => cause.message

/-- The category of the failure. -/
def LoadError.category : LoadError → Category
  | .decode _ => .undecodable
  | .document cause => cause.category
  | .tooDeep => .recursion
  | .config cause => cause.category

/-- The mapping that a document describes. -/
def documentMapping [Host] (text : String) : Except LoadError Mapping := do
  let v ← (Host.document text).mapError .document
  if !v.truthy then return []
  match v.entries? with
  | some entries => return entries
  | none => throw (.config .noMapping)

/-- The configuration in the bytes of a document. `SPEC_FULL.md` §10.3 (lines 166–168). -/
def Config.load [Host] (bytes : List UInt8) : Except LoadError Config := do
  let text ← (decodeUtf8 bytes).mapError .decode
  let entries ← documentMapping (unifyLineEnds text)
  if !Host.canRead (.map entries) then throw .tooDeep
  (Config.parse (.map entries)).mapError .config

end QueryTemplates
