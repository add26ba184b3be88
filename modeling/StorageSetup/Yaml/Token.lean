/-!
# YAML tokens

Key definitions:
- `Token`: the signs of the structure, and scalars
- `Error`: why a text is no YAML document
-/

namespace StorageSetup.Yaml

/-- The signs of the structure, and scalars. Blocks that are opened by indentation have signs of
their own. -/
inductive Token where
  | versionDirective (major minor : Nat)
  | tagDirective (handle start : String)
  | documentStart
  | documentEnd
  | blockSequenceStart
  | blockMappingStart
  | blockEnd
  | flowSequenceStart
  | flowSequenceEnd
  | flowMappingStart
  | flowMappingEnd
  | blockEntry
  | flowEntry
  | key
  | value
  | aliasName (name : String)
  | anchor (name : String)
  | tag (handle rest : String)
  | scalar (text : String) (plain : Bool)
  deriving DecidableEq, Repr

/-- The reasons a text is no YAML document, or not one of the expected shape. -/
inductive Error where
  | forbiddenCharacter (c : Char)
  | strayCharacter (c : Char)
  | strayTab
  | unclosedQuote
  | documentMarkerInQuote
  | unknownEscape
  | invalidEscape
  | invalidBlockHeader
  | invalidAnchor
  | invalidTag
  | invalidDirective
  | unknownTagHandle (handle : String)
  | entryNotAllowed
  | keyNotAllowed
  | valueNotAllowed
  | missingColon
  | colonInFlow
  | unexpectedToken
  | missingDocumentStart
  | severalDocuments
  | unknownAnchor (name : String)
  | tooDeep
  | tooManyAliases
  | numberOutOfRange
  | unexpectedTag
  | wrongType (expected : String)
  | duplicateField (name : String)
  deriving DecidableEq, Repr

end StorageSetup.Yaml
