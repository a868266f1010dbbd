import SearchIndex.Definition.Document
import SearchIndex.Json.Reader
import SearchIndex.LoadError
import SearchIndex.Yaml.Resolve

/-!
Contract: definitions by the names of their indexes.

A set comes from a list, from the definition files of a directory, or from a file that bundles
several definitions. No two definitions of a set have one name. A definition that names no
tokenizer takes the given kind. Files are JSON if their name ends so, and YAML otherwise.
-/

namespace SearchIndex

/-- A document that gives no tokenizer takes a plain one of the given kind. Only an object can lack
one: its members are in canonical order, before and after. -/
def Json.withTokenizer (document : Json) (kind : Tokenizer.Kind) : Json :=
  match document with
  | .object members =>
    if members.any fun entry => entry.1 == "tokenizer" then document
    else .object (NameMap.put "tokenizer" (Tokenizer.plain kind).toJson members)
  | document => document

/-- The format of a definition file. -/
inductive DocumentFormat where
  | json
  | yaml
deriving DecidableEq, Repr

/-- The format that a file's name ends in. -/
def DocumentFormat.ofPath? (path : String) : Option DocumentFormat :=
  match FileTree.extension? path with
  | some "json" => some .json
  | some "yaml" => some .yaml
  | some "yml" => some .yaml
  | _ => none

def loadDocument (tree : FileTree) (path : String) : Except LoadError Json := do
  let text ← (tree.readText path).mapError .file
  match DocumentFormat.ofPath? path with
  | some .json =>
    let document ← (Json.parse text).mapError fun fault => .definitionText path fault.message
    .ok document.canonical
  | _ =>
    let yaml ← (Yaml.Document.parse text).mapError fun fault => .definitionText path fault.message
    let document ← yaml.toJson.mapError fun mismatch => .definitionText path mismatch.message
    .ok document.canonical

def Definition.load (tree : FileTree) (path : String) (kind : Tokenizer.Kind) :
    Except LoadError Definition := do
  let document ← loadDocument tree path
  (Definition.ofJson (document.withTokenizer kind)).mapError (.definitionShape path)

/-- Several definitions in one document. -/
structure Bundle where
  version : String
  generatedAt : Option String
  definitions : List Definition
deriving DecidableEq, Repr

namespace Bundle

def record : Record Json Bundle where
  name := "DefinitionBundle"
  start := ⟨"", none, []⟩
  fields := [
    ⟨"version", true, fun draft document => do
      .ok { draft with version := ← document.asString }⟩,
    ⟨"generated_at", false, fun draft document => do
      .ok { draft with generatedAt := ← document.asOption Json.asString }⟩,
    ⟨"definitions", true, fun draft document => do
      .ok { draft with definitions := ← document.asList Definition.ofJson }⟩]

def ofJson : Json → Except Mismatch Bundle := record.read

def toJson (bundle : Bundle) : Json :=
  .ofFields [
    ("version", some (.string bundle.version)),
    ("generated_at", bundle.generatedAt.map .string),
    ("definitions", some (.array (bundle.definitions.map Definition.toJson)))]

/-- Gives a kind of tokenizer to the definitions of a bundle that name none. -/
def withTokenizers (document : Json) (kind : Tokenizer.Kind) : Json :=
  match document with
  | .object members =>
    .object (members.map fun entry =>
      match entry with
      | ("definitions", .array items) =>
        ("definitions", .array (items.map fun item => item.withTokenizer kind))
      | entry => entry)
  | document => document

def load (tree : FileTree) (path : String) (kind : Tokenizer.Kind) : Except LoadError Bundle := do
  let document ← loadDocument tree path
  (ofJson (withTokenizers document kind)).mapError (.definitionShape path)

end Bundle

inductive DefinitionSource where
  | directory (path : String)
  | bundle (path : String)
  | memory
  | fallbacks (sources : List DefinitionSource)
deriving Repr

/-- A definition and the file it came from. -/
structure DefinitionEntry where
  definition : Definition
  path : Option String
deriving DecidableEq, Repr

/-- Definitions by the names of their indexes. -/
structure DefinitionSet where
  entries : NameMap DefinitionEntry
  source : DefinitionSource
  named : ∀ entry ∈ entries.entries, entry.1 = entry.2.definition.name

namespace DefinitionSet

/-- A set without definitions. -/
def empty (source : DefinitionSource) : DefinitionSet :=
  ⟨.empty, source, fun _ member => (List.not_mem_nil member).elim⟩

/-- Adds a definition to those before it. -/
def insert (set : DefinitionSet) (entry : DefinitionEntry) : Except LoadError DefinitionSet :=
  let name := entry.definition.name
  if set.entries.contains name then .error (.duplicateDefinition name)
  else .ok {
    entries := set.entries.insert name entry
    source := set.source
    named := fun other member => by
      rcases NameMap.mem_put member with rfl | old
      · rfl
      · exact set.named other old }

/-- Adds definitions one after another. The first one whose name came before is reported. -/
def insertAll (set : DefinitionSet) (entries : List DefinitionEntry) :
    Except LoadError DefinitionSet :=
  entries.foldlM insert set

def ofDefinitions (definitions : List Definition) : Except LoadError DefinitionSet :=
  (empty .memory).insertAll (definitions.map fun definition => ⟨definition, none⟩)

/-- Names in increasing order. -/
def sortNames (names : List String) : List String :=
  names.mergeSort fun left right => decide (left ≤ right)

def definitionPaths (tree : FileTree) (path : String) : Except FileError (List String) := do
  let names ← tree.names path
  .ok ((sortNames (names.filter fun name => (DocumentFormat.ofPath? name).isSome)).map
    (FileTree.joinPath path))

/-- Loads files one after another. A file is added before the next one is read. -/
def addFiles (tree : FileTree) (kind : Tokenizer.Kind) :
    DefinitionSet → List String → Except LoadError DefinitionSet
  | set, [] => .ok set
  | set, path :: rest => do
    let definition ← Definition.load tree path kind
    let set ← set.insert ⟨definition, some path⟩
    addFiles tree kind set rest

def ofDirectory (tree : FileTree) (path : String) (kind : Tokenizer.Kind) :
    Except LoadError DefinitionSet := do
  let paths ← (definitionPaths tree path).mapError .file
  addFiles tree kind (empty (.directory path)) paths

def ofBundle (tree : FileTree) (path : String) (kind : Tokenizer.Kind) :
    Except LoadError DefinitionSet := do
  let bundle ← Bundle.load tree path kind
  (empty (.bundle path)).insertAll
    (bundle.definitions.map fun definition => ⟨definition, some path⟩)

def ofSource (tree : FileTree) (kind : Tokenizer.Kind) :
    DefinitionSource → Except LoadError DefinitionSet
  | .directory path => ofDirectory tree path kind
  | .bundle path => ofBundle tree path kind
  | _ => .error .noSources

def ofSources (tree : FileTree) (kind : Tokenizer.Kind) (sources : List DefinitionSource) :
    Except LoadError DefinitionSet :=
  match sources.findSome? fun source => (ofSource tree kind source).toOption with
  | some set => .ok { set with source := .fallbacks sources }
  | none => .error .noSources

def get? (set : DefinitionSet) (name : String) : Option Definition :=
  (set.entries.get? name).map DefinitionEntry.definition

def contains (set : DefinitionSet) (name : String) : Bool := set.entries.contains name

/-- The names of the indexes in increasing order. -/
def names (set : DefinitionSet) : List String := set.entries.names

/-- The definitions in the order of their names. -/
def definitions (set : DefinitionSet) : List Definition :=
  set.entries.values.map DefinitionEntry.definition

/-- The definitions that cannot become an index, with the reason. -/
def problems (set : DefinitionSet) : List (String × DefinitionError) :=
  set.entries.entries.filterMap fun entry =>
    match entry.2.definition.validate with
    | .ok () => none
    | .error fault => some (entry.1, fault)

def toBundle (set : DefinitionSet) (version : String) (generatedAt : Option String) : Bundle :=
  ⟨version, generatedAt, set.definitions⟩

end DefinitionSet

end SearchIndex
