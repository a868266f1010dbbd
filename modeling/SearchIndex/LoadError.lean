import SearchIndex.Document.Mismatch
import SearchIndex.FileTree

/-!
Contract: why definitions, settings or a manifest cannot be loaded or saved.
-/

namespace SearchIndex

/-- Why something cannot be loaded or saved. -/
inductive LoadError where
  /-- A file cannot be used. -/
  | file (error : FileError)
  /-- A JSON document is at fault. -/
  | json (reason : String)
  /-- A YAML document is at fault. -/
  | yaml (reason : String)
  /-- A file holds no document. -/
  | definitionText (path reason : String)
  /-- A file holds a document that is no definition. -/
  | definitionShape (path : String) (mismatch : Mismatch)
  /-- Two definitions have one name. -/
  | duplicateDefinition (name : String)
  /-- A manifest has no version. -/
  | missingVersion
  /-- A manifest's record has no proper checksum. -/
  | malformedChecksum (name checksum : String)
  /-- No source of definitions could be loaded. -/
  | noSources
deriving Repr

def LoadError.message : LoadError → String
  | .file error => "I/O error: " ++ error.message
  | .json reason => "JSON error: " ++ reason
  | .yaml reason => "YAML error: " ++ reason
  | .definitionText path reason => "invalid definition file " ++ path ++ ": " ++ reason
  | .definitionShape path mismatch =>
    "invalid definition file " ++ path ++ ": " ++ mismatch.message
  | .duplicateDefinition name => "duplicate definition for table '" ++ name ++ "'"
  | .missingVersion => "invalid manifest: missing version"
  | .malformedChecksum name checksum =>
    "invalid manifest: index '" ++ name ++ "' has malformed checksum '" ++ checksum ++ "'"
  | .noSources => "no definition sources available"

end SearchIndex
