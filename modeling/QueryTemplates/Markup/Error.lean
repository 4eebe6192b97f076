import QueryTemplates.Calendar
import QueryTemplates.Category
import QueryTemplates.Number.DigitLimit
import QueryTemplates.Text.Quoted

/-!
# Faults of documents

A document is refused because it does not follow the grammar, because its nodes do not fit
together, or because a scalar cannot be read as its tag says.

Documents are those of `SPEC_FULL.md` §10.3 (lines 166–167).
-/

namespace QueryTemplates

/-- Where a document leaves the grammar or its nodes do not fit together. -/
inductive MarkupFault where
  | unprintable
  | unexpectedCharacter
  | keyWithoutValue
  | entryNotAllowed
  | keyNotAllowed
  | valueNotAllowed
  | badDirective
  | badName
  | badTag
  | badBlockHeader
  | badEscape
  | unclosedQuote
  | documentMarkInQuotes
  | noDocumentStart
  | wrongVersion
  | repeatedDirective
  | unknownHandle
  | noContent
  | noBlockEnd
  | noSeparator
  | unknownAlias
  | repeatedAnchor
  | severalDocuments
  | keyWithParts
  | unknownTag
  | wrongParts
  | badBinary
deriving DecidableEq

/-- The fault in words. -/
def MarkupFault.message : MarkupFault → String
  | .unprintable => "special characters are not allowed"
  | .unexpectedCharacter => "found a character that cannot start any token"
  | .keyWithoutValue => "could not find expected ':'"
  | .entryNotAllowed => "sequence entries are not allowed here"
  | .keyNotAllowed => "mapping keys are not allowed here"
  | .valueNotAllowed => "mapping values are not allowed here"
  | .badDirective => "found a directive that cannot be read"
  | .badName => "expected alphabetic or numeric character"
  | .badTag => "found a tag that cannot be read"
  | .badBlockHeader => "expected chomping or indentation indicators"
  | .badEscape => "found unknown escape character"
  | .unclosedQuote => "found unexpected end of stream"
  | .documentMarkInQuotes => "found unexpected document separator"
  | .noDocumentStart => "expected '<document start>'"
  | .wrongVersion => "found incompatible YAML document (version 1.* is required)"
  | .repeatedDirective => "found duplicate directive"
  | .unknownHandle => "found undefined tag handle"
  | .noContent => "expected the node content"
  | .noBlockEnd => "expected <block end>"
  | .noSeparator => "expected ',' or a closing bracket"
  | .unknownAlias => "found undefined alias"
  | .repeatedAnchor => "found duplicate anchor"
  | .severalDocuments => "expected a single document in the stream"
  | .keyWithParts => "found unhashable key"
  | .unknownTag => "could not determine a constructor for the tag"
  | .wrongParts => "found a node of another kind than expected"
  | .badBinary => "failed to decode base64 data"

/-- Why a document has no value. -/
inductive DocumentError where
  | markup (fault : MarkupFault)
  /-- The text is no integer of the base. -/
  | integer (base : Nat) (text : String)
  /-- The integer has too many digits. -/
  | longInteger (digits : Nat)
  /-- The weight of a part of a number is beyond the finite numbers. -/
  | unrepresentable
  /-- The text is no decimal number. -/
  | decimal (text : String)
  /-- There is no digit to look at. -/
  | noDigit
  /-- The text is no truth value. -/
  | truth (text : String)
  /-- The text is no date or time. -/
  | timestamp
  /-- A node with parts cannot be a date or time. -/
  | timestampParts
  /-- Reading a node leads back to it again and again. -/
  | endless
  | calendar (cause : CalendarError)
  /-- There is no character of that number. -/
  | character
  /-- The number of a character is beyond the range of numbers. -/
  | characterRange
deriving DecidableEq

/-- The failure in words. -/
def DocumentError.message : DocumentError → String
  | .markup fault => fault.message
  | .integer base text =>
    "invalid literal for int() with base " ++ toString base ++ ": "
      ++ String.ofList ((quotedChars text.toList).take 200)
  | .longInteger digits => digitLimitMessage (some digits)
  | .unrepresentable => "int too large to convert to float"
  | .decimal text => "could not convert string to float: " ++ quoted text
  | .noDigit => "string index out of range"
  | .truth text => quoted text
  | .timestamp => "'NoneType' object has no attribute 'groupdict'"
  | .timestampParts => "expected string or bytes-like object, got 'list'"
  | .endless => recursionMessage ""
  | .calendar cause => cause.message
  | .character => "chr() arg not in range(0x110000)"
  | .characterRange => "Python int too large to convert to C int"

/-- The category of the failure. -/
def DocumentError.category : DocumentError → Category
  | .markup _ => .markup
  | .integer _ _ | .longInteger _ | .decimal _ | .calendar _ | .character => .badValue
  | .unrepresentable => .overflow
  | .timestampParts => .wrongType
  | .endless => .recursion
  | .noDigit => .missingIndex
  | .truth _ => .missingKey
  | .timestamp => .missingAttribute
  | .characterRange => .overflow

end QueryTemplates
