import LineCensus.Value

/-!
# What can be wrong with a YAML text

A text may be no document; or it is one, and a value in it cannot be made.
-/

namespace LineCensus.Yaml

inductive Fault where
  | unprintable
  | stray
  /-- What has to be a key is not followed by a colon. -/
  | keyWithoutColon
  | misplacedEntry
  | badDirective
  | badAnchor
  | badTag
  | badBlockHeader
  | badEscape
  | unclosedQuote
  | markerInQuotes
  | missingDocumentStart
  | missingBlockEnd
  /-- Items between brackets or braces are not separated. -/
  | missingSeparator
  | missingNode
  | undefinedTagHandle
  | undefinedAlias
  | duplicateAnchor
  | severalDocuments
  /-- A list or a mapping is used as a key. -/
  | compoundKey
  /-- A node does not fit its tag. -/
  | badContent
  deriving DecidableEq, Repr

/-- What a value is not made for without its being said. -/
inductive Breakdown where
  /-- A word is not in the table of its type. -/
  | missingWord
  /-- A text does not have the form of its type. -/
  | missingForm
  /-- A text has no first character. -/
  | missingCharacter
  | overflow
  | depth
  deriving DecidableEq, Repr

/-- Why a text gives no value. -/
inductive Error where
  | malformed (fault : Fault)
  | badValue (message : String)
  | broken (cause : Breakdown)
  deriving DecidableEq, Repr

abbrev Reader := List Char → Except Error Value

end LineCensus.Yaml
