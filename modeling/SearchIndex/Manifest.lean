import SearchIndex.Checksum
import SearchIndex.Json.Decode
import SearchIndex.Json.Reader
import SearchIndex.Json.Writer
import SearchIndex.LoadError

/-!
Contract: the record of the indexes that were made.

A manifest keeps, for each index, the checksum of the statement that made it, so that a later run
can tell whether the statement has changed. Every change is stamped with the time it is given.
Manifests are kept as JSON.
-/

namespace SearchIndex

structure IndexRecord where
  /-- The checksum of the statement that made the index. -/
  checksum : String
  /-- The file that its definition came from. -/
  sourceFile : Option String
  /-- When it was made. -/
  appliedAt : String
  /-- Whether it is kept in step by triggers. -/
  triggers : Bool
deriving DecidableEq, Repr

/-- The indexes that were made. -/
structure Manifest where
  version : String
  toolVersion : String
  /-- When the manifest was last changed. -/
  updatedAt : String
  indexes : NameMap IndexRecord
deriving DecidableEq

namespace Manifest

/-- How a statement compares with what a manifest holds. -/
inductive Standing where
  /-- No index of this name is recorded. -/
  | new
  /-- The index was made by another statement. -/
  | changed
  /-- The index was made by this statement. -/
  | current
deriving DecidableEq, Repr

def Standing.name : Standing → String
  | .new => "new"
  | .changed => "changed"
  | .current => "current"

def formatVersion : String := "1.0"

/-- A manifest without indexes. -/
def new (toolVersion now : String) : Manifest := ⟨formatVersion, toolVersion, now, .empty⟩

def get? (manifest : Manifest) (name : String) : Option IndexRecord := manifest.indexes.get? name

def contains (manifest : Manifest) (name : String) : Bool := manifest.indexes.contains name

def record (manifest : Manifest) (name statement : String) (sourceFile : Option String)
    (triggers : Bool) (now : String) : Manifest :=
  { manifest with
    updatedAt := now
    indexes := manifest.indexes.insert name
      ⟨Checksum.ofText statement, sourceFile, now, triggers⟩ }

/-- Forgets an index. A manifest that does not have it is not changed. -/
def remove (manifest : Manifest) (name now : String) : Manifest :=
  if manifest.contains name then
    { manifest with updatedAt := now, indexes := manifest.indexes.erase name }
  else manifest

/-- How a statement compares with the record of its index. -/
def standing (manifest : Manifest) (name statement : String) : Standing :=
  match manifest.get? name with
  | none => .new
  | some record => if record.checksum = Checksum.ofText statement then .current else .changed

/-! ### Differences -/

/-- The names that differ between two manifests, in order. -/
structure Difference where
  added : List String
  removed : List String
  changed : List String
deriving DecidableEq, Repr

def Difference.isEmpty (difference : Difference) : Bool :=
  difference.added.isEmpty && difference.removed.isEmpty && difference.changed.isEmpty

def difference (older newer : Manifest) : Difference where
  added := newer.indexes.names.filter fun name => !older.contains name
  removed := older.indexes.names.filter fun name => !newer.contains name
  changed := (older.indexes.entries.filter fun entry =>
    (newer.get? entry.1).any fun record => record.checksum != entry.2.checksum).map Prod.fst

/-! ### Checks -/

def isChecksum (text : String) : Bool :=
  text.length == 64 && text.toList.all Text.Hex.isDigit

/-- Checks the version and the checksums. -/
def validate (manifest : Manifest) : Except LoadError Unit :=
  if manifest.version = "" then .error .missingVersion
  else match manifest.indexes.entries.find? fun entry => !isChecksum entry.2.checksum with
    | some (name, record) => .error (.malformedChecksum name record.checksum)
    | none => .ok ()

/-! ### Manifests as documents -/

def indexLayout : Record Json IndexRecord where
  name := "IndexRecord"
  start := ⟨"", none, "", false⟩
  fields := [
    ⟨"checksum", true, fun draft document => do
      .ok { draft with checksum := ← document.asString }⟩,
    ⟨"source_file", false, fun draft document => do
      .ok { draft with sourceFile := ← document.asOption Json.asString }⟩,
    ⟨"applied_at", true, fun draft document => do
      .ok { draft with appliedAt := ← document.asString }⟩,
    ⟨"triggers", false, fun draft document => do
      .ok { draft with triggers := ← document.asBoolean }⟩]

def indexesOfJson : Json → Except Mismatch (NameMap IndexRecord)
  | .object members => do
    let entries ← members.mapM fun entry => do .ok (entry.1, ← indexLayout.read entry.2)
    .ok (.ofList entries)
  | document => document.wrongType "a map"

def layout : Record Json Manifest where
  name := "Manifest"
  start := new "" ""
  fields := [
    ⟨"version", true, fun draft document => do
      .ok { draft with version := ← document.asString }⟩,
    ⟨"tool_version", true, fun draft document => do
      .ok { draft with toolVersion := ← document.asString }⟩,
    ⟨"updated_at", true, fun draft document => do
      .ok { draft with updatedAt := ← document.asString }⟩,
    ⟨"indexes", true, fun draft document => do
      .ok { draft with indexes := ← indexesOfJson document }⟩]

def indexToJson (record : IndexRecord) : Json :=
  .ofFields [
    ("checksum", some (.string record.checksum)),
    ("source_file", record.sourceFile.map .string),
    ("applied_at", some (.string record.appliedAt)),
    ("triggers", some (.boolean record.triggers))]

def toJson (manifest : Manifest) : Json :=
  .object [
    ("version", .string manifest.version),
    ("tool_version", .string manifest.toolVersion),
    ("updated_at", .string manifest.updatedAt),
    ("indexes", .object (manifest.indexes.entries.map fun entry =>
      (entry.1, indexToJson entry.2)))]

/-! ### Manifests as text -/

def render (manifest : Manifest) : String := manifest.toJson.pretty

def parse (text : String) : Except LoadError Manifest := do
  let document ← (Json.parse text).mapError fun fault => .json fault.message
  let manifest ← (layout.read document).mapError fun mismatch => .json mismatch.message
  manifest.validate
  .ok manifest

def load (tree : FileTree) (path : String) : Except LoadError Manifest :=
  match tree.readText path with
  | .ok text => parse text
  | .error .isDirectory => .error (.json FileError.isDirectory.message)
  | .error .notText => .error (.json FileError.notText.message)
  | .error error => .error (.file error)

def loadOrNew (tree : FileTree) (path toolVersion now : String) : Except LoadError Manifest :=
  if tree.contains path then load tree path else .ok (new toolVersion now)

end Manifest

end SearchIndex
