import SearchIndex.Apply
import SearchIndex.Command.Arguments
import SearchIndex.Settings

/-!
Contract: what the commands do.

A command reads and changes files, and leaves lines for the output and for messages. One that fails
says why in its last message. Databases are files of their own kind; one that is not there, or
has no bytes, is an empty database.
-/

namespace SearchIndex.Command

open Database

def version : String := "0.1.0"

/-- The name of the program with its version. -/
def versionLine : String := "fts-schema " ++ version

/-- How the program is called. -/
def usageLine : String := "Usage: fts-schema [OPTIONS] <COMMAND>"

/-- What a command finds around it. -/
structure Environment where
  files : FileTree
  input : List UInt8
  /-- The time. -/
  now : String
  /-- The time that work on a database takes, in milliseconds. -/
  elapsed : String

/-- What a command leaves behind. -/
structure Outcome where
  files : FileTree
  output : List String
  /-- Lines of messages. -/
  notes : List String
  /-- Why the command failed. -/
  failure : Option String

namespace Outcome

/-- A command that ends well. -/
def success (files : FileTree) (output : List String) : Outcome := ⟨files, output, [], none⟩

/-- A command that fails before it gives any output. -/
def failed (files : FileTree) (reason : String) : Outcome := ⟨files, [], [], some reason⟩

def ofLines (files : FileTree) : Except String (List String) → Outcome
  | .ok output => success files output
  | .error reason => failed files reason

/-- Zero if the command ended well. -/
def exitCode (outcome : Outcome) : Nat := if outcome.failure.isSome then 1 else 0

def textOf (lines : List String) : String :=
  lines.foldr (fun line text => line ++ "\n" ++ text) ""

def outputText (outcome : Outcome) : String := textOf outcome.output

def messageText (outcome : Outcome) : String :=
  textOf (outcome.notes ++ outcome.failure.toList.map ("error: " ++ ·))

end Outcome

/-- A document in a format, without blanks at the end. -/
def structuredText (format : OutputFormat) (document : Json) : String :=
  let text := match format with
    | .json => document.pretty
    | .yaml => Yaml.render document
  String.ofList (Text.trimEnd text.toList)

/-- A name between single quotes. -/
def marked (name : String) : String := "'" ++ name ++ "'"

/-! ### What commands read -/

def loadSettings (files : FileTree) : Option String → Except String Settings
  | none => .ok .standard
  | some path => (Settings.load files path).mapError fun error =>
      "Failed to load config " ++ marked path ++ ": " ++ error.message

def loadDefinitions (files : FileTree) (path : String) (kind : Tokenizer.Kind) :
    Except String DefinitionSet :=
  let set :=
    if files.isDirectory path then DefinitionSet.ofDirectory files path kind
    else DefinitionSet.ofBundle files path kind
  set.mapError fun error =>
    "Failed to load definitions " ++ marked path ++ ": " ++ error.message

def manifestFailure (path : String) (error : LoadError) : String :=
  "Failed to load manifest " ++ marked path ++ ": " ++ error.message

def openDatabase (files : FileTree) (path : String) : Except String Catalog :=
  let failure (reason : String) : Except String Catalog :=
    .error ("Failed to open database " ++ marked path ++ ": " ++
      (IndexError.connection reason).message)
  match files.lookup path with
  | .ok (.database catalog) => .ok catalog
  | .ok (.file []) => .ok .empty
  | .ok (.file (_ :: _)) => failure "file is not a database"
  | .ok .directory => failure ("unable to open database file: " ++ path)
  | .error _ =>
    match files.write path (.database .empty) with
    | .ok _ => .ok .empty
    | .error _ => failure ("unable to open database file: " ++ path)

def findDatabase (files : FileTree) (path : String) : Except String Catalog :=
  if files.contains path then openDatabase files path
  else .error ("Database " ++ marked path ++ " does not exist")

/-- The files with a database in its place. A place that cannot be written is left as it is. -/
def keepDatabase (files : FileTree) (path : String) (catalog : Catalog) : FileTree :=
  match files.write path (.database catalog) with
  | .ok files => files
  | .error _ => files

def saveManifest (files : FileTree) (path : String) (manifest : Manifest) :
    Except String FileTree :=
  (files.write path (FileTree.textFile manifest.render)).mapError fun error =>
    "Failed to write manifest " ++ marked path ++ ": " ++ (LoadError.file error).message

/-! ### Definition files -/

/-- Whether a file counts as a definition file by the end of its name. -/
def isDefinitionFile (name : String) : Bool :=
  match FileTree.extension? name with
  | some "json" => true
  | some "yaml" => true
  | some "yml" => true
  | _ => false

/-- The definition files in a directory, in the order of their names. -/
def filesIn (files : FileTree) (directory : String) : Except FileError (List String) := do
  let names ← files.names directory
  .ok ((DefinitionSet.sortNames (names.filter isDefinitionFile)).map
    (FileTree.joinPath directory))

/-- The definition files that inputs name, where a directory stands for those in it. -/
def definitionPaths (files : FileTree) : List String → Except String (List String)
  | [] => .ok []
  | input :: rest => do
    let paths ←
      if files.isDirectory input then
        (filesIn files input).mapError fun error =>
          "Failed to read " ++ marked input ++ ": " ++ error.message
      else if files.contains input then .ok [input]
      else .error (marked input ++ " does not exist")
    .ok (paths ++ (← definitionPaths files rest))

/-- The name of the index that a definition file defines, if it can become one. -/
def checkFile (files : FileTree) (kind : Tokenizer.Kind) (path : String) :
    Except String String := do
  let definition ← (Definition.load files path kind).mapError LoadError.message
  definition.validate.mapError DefinitionError.message
  .ok definition.name

/-- The complaints about definition files; `seen` holds the names that came before. -/
def complaints (files : FileTree) (kind : Tokenizer.Kind) (seen : List String) :
    List String → List String
  | [] => []
  | path :: rest =>
    match checkFile files kind path with
    | .error reason => (path ++ ": " ++ reason) :: complaints files kind seen rest
    | .ok name =>
      if seen.contains name then
        (path ++ ": " ++ (LoadError.duplicateDefinition name).message) ::
          complaints files kind seen rest
      else complaints files kind (name :: seen) rest

/-- Checks definition files. -/
def runValidate (inputs : List String) (settings : Option String) (files : FileTree) : Outcome :=
  let read : Except String (Settings × List String) := do
    let settings ← loadSettings files settings
    let paths ← definitionPaths files inputs
    if paths.isEmpty then .error "No definition files found" else .ok (settings, paths)
  match read with
  | .error reason => .failed files reason
  | .ok (settings, paths) =>
    let notes := complaints files settings.index.defaultTokenizer [] paths
    let total := Decimal.natural paths.length
    if notes.isEmpty then
      .success files ["Validated " ++ total ++ " definition file(s)."]
    else
      ⟨files, [], notes, some (Decimal.natural notes.length ++ " of " ++ total ++
        " definition file(s) failed validation")⟩

structure Statements where
  index : String
  sql : String
  triggers : List Synchronization.Trigger
  backfill : Option String

/-- The statements of a definition, as far as they are asked for. -/
def statementsOf (definition : Definition) (triggers populate : Bool) :
    Except DefinitionError Statements := do
  let sql ← definition.statement
  let triggers ←
    if triggers then (Synchronization.ofDefinition definition).map Synchronization.triggers
    else .ok []
  let backfill ←
    if populate then
      (Synchronization.ofDefinition definition).map fun link => some link.backfill
    else .ok none
  .ok ⟨definition.name, sql, triggers, backfill⟩

def Statements.toJson (statements : Statements) : Json :=
  let triggerToJson (trigger : Synchronization.Trigger) : Json :=
    .object [
      ("name", .string trigger.name),
      ("event", .string trigger.event.keyword),
      ("sql", .string trigger.sql)]
  .ofFields [
    ("table", some (.string statements.index)),
    ("ddl", some (.string statements.sql)),
    ("triggers",
      if statements.triggers.isEmpty then none
      else some (.array (statements.triggers.map triggerToJson))),
    ("populate", statements.backfill.map .string)]

/-- Statements one after another. -/
def Statements.lines (statements : Statements) : List String :=
  statements.sql :: statements.triggers.map Synchronization.Trigger.sql ++
    statements.backfill.toList

/-- Writes the statements of a definition file. -/
def runCompile (path : String) (triggers populate : Bool) (settings : Option String)
    (format : Option OutputFormat) (files : FileTree) : Outcome :=
  .ofLines files do
    let settings ← loadSettings files settings
    let definition ←
      (Definition.load files path settings.index.defaultTokenizer).mapError fun error =>
        "Failed to load " ++ marked path ++ ": " ++ error.message
    let statements ← (statementsOf definition triggers populate).mapError fun error =>
      "Invalid definition " ++ marked path ++ ": " ++ error.message
    .ok <| match format with
      | none => statements.lines
      | some format => [structuredText format statements.toJson]

/-- Reads a statement back. -/
def runDecompile (input : Option String) (format : OutputFormat) (environment : Environment) :
    Outcome :=
  .ofLines environment.files do
    let sql ← match input with
      | some path => (environment.files.readText path).mapError fun error =>
          "Failed to read " ++ marked path ++ ": " ++ error.message
      | none => (Text.Utf8.decode environment.input).mapError fun _ =>
          "Failed to read stdin: " ++ FileError.notText.message
    match Definition.Recovered.ofStatement? sql with
    | some recovered => .ok [structuredText format recovered.toJson]
    | none => .error "Input is not an FTS5 CREATE VIRTUAL TABLE statement"

/-! ### Searches -/

/-- The names between commas, without blanks around them. -/
def columnNames (text : String) : List String :=
  ((Text.fields ',' text).map Text.trimmed).filter fun name => name != ""

/-- A request with what the command line sets. -/
def override (arguments : SearchArguments) (request : Search.Request) : Search.Request :=
  let request := match arguments.columns with
    | some columns => request.withColumns (columnNames columns)
    | none => request
  let request := match arguments.limit with
    | some limit => request.withLimit limit
    | none => request
  let request := request.withOffset arguments.offset
  let request := match arguments.k1, arguments.b with
    | some k1, some b => request.withRanking k1 b
    | _, _ => request
  if arguments.snippet then request.withSnippet else request

/-- The request of a search: what the command line leaves open comes from the settings. -/
def requestOf (settings : Settings) (arguments : SearchArguments) : Search.Request :=
  settings.complete (override arguments (settings.request arguments.query))

def runSearch (arguments : SearchArguments) (files : FileTree) : Outcome :=
  .ofLines files do
    let settings ← loadSettings files arguments.settings
    let catalog ← findDatabase files arguments.database
    let page ←
      (catalog.ask (Index.search arguments.index (requestOf settings arguments))).mapError
        fun error => "Search failed: " ++ error.message
    .ok [structuredText arguments.format page.toJson]

/-! ### Databases and definitions -/

/-- What is told at the end of a run that brings a database in line. -/
def summaryLine (total changed : Nat) : String :=
  "Applied " ++ Decimal.natural total ++ " definition(s): " ++ Decimal.natural changed ++
    " changed, " ++ Decimal.natural (total - changed) ++ " unchanged."

def startManifest (files : FileTree) (path : Option String) (now : String) :
    Except String (Option Manifest) :=
  match path with
  | none => .ok none
  | some path =>
    match Manifest.loadOrNew files path version now with
    | .ok manifest => .ok (some manifest)
    | .error error => .error (manifestFailure path error)

/-- Ends a run over all definitions: saves the manifest, unless the plan was only told. -/
def finishApply {σ : Type} (arguments : ApplyArguments) (files : FileTree) (total : Nat)
    (progress : Apply.Progress σ) : Outcome :=
  if arguments.dryRun then .success files progress.lines
  else
    let saved := match progress.manifest, arguments.manifest with
      | some manifest, some path => saveManifest files path manifest
      | _, _ => .ok files
    match saved with
    | .error reason => ⟨files, progress.lines, [], some reason⟩
    | .ok files =>
      .success files (progress.lines ++ [summaryLine total progress.changed])

def partsOf (settings : Settings) (arguments : ApplyArguments) : Index.CreateOptions where
  triggers := settings.index.createTriggers && !arguments.noTriggers
  populate := settings.index.populate && !arguments.noPopulate

def applyOptions (arguments : ApplyArguments) (settings : Settings) (now : String) :
    Apply.Options where
  parts := partsOf settings arguments
  force := arguments.force
  dryRun := arguments.dryRun
  now := now

/-- What a run over an open database leaves beside the database, and how far it came. -/
structure ApplyRun (σ : Type) where
  outcome : Outcome
  progress : Apply.Progress σ

/-- Brings an open database in line with valid definitions. -/
def applyOpened {σ : Type} (server : Server σ) (arguments : ApplyArguments) (settings : Settings)
    (set : DefinitionSet) (now : String) (files : FileTree) (database : σ) : ApplyRun σ :=
  match startManifest files arguments.manifest now with
  | .error reason => ⟨.failed files reason, .start database none⟩
  | .ok manifest =>
    let options := applyOptions arguments settings now
    match Apply.steps server options set.entries.values (.start database manifest) with
    | (.error reason, progress) => ⟨⟨files, progress.lines, [], some reason⟩, progress⟩
    | (.ok (), progress) => ⟨finishApply arguments files set.entries.size progress, progress⟩

/-- Brings a database in line with valid definitions. -/
def applySet (arguments : ApplyArguments) (settings : Settings) (set : DefinitionSet)
    (environment : Environment) : Outcome :=
  match openDatabase environment.files arguments.database with
  | .error reason => .failed environment.files reason
  | .ok catalog =>
    let files := keepDatabase environment.files arguments.database catalog
    let run :=
      applyOpened Catalog.server arguments settings set environment.now files catalog
    { run.outcome with
      files := keepDatabase run.outcome.files arguments.database run.progress.database }

/-- Brings a database in line with definitions. -/
def runApply (arguments : ApplyArguments) (environment : Environment) : Outcome :=
  let files := environment.files
  let read : Except String (Settings × DefinitionSet) := do
    let settings ← loadSettings files arguments.settings
    let set ← loadDefinitions files arguments.definitions settings.index.defaultTokenizer
    .ok (settings, set)
  match read with
  | .error reason => .failed files reason
  | .ok (settings, set) =>
    let problems := set.problems
    if problems.isEmpty then applySet arguments settings set environment
    else
      ⟨files, [], problems.map fun problem => problem.1 ++ ": " ++ problem.2.message,
        some (Decimal.natural problems.length ++ " invalid definition(s)")⟩

/-- How an index compares with its definition. -/
structure Status where
  index : String
  sourceFile : Option String
  present : Bool
  matched : Option Bool
  standing : Option Manifest.Standing
  rows : Option Nat

def Status.toJson (status : Status) : Json :=
  .ofFields [
    ("table", some (.string status.index)),
    ("source_file", status.sourceFile.map .string),
    ("exists", some (.boolean status.present)),
    ("matches_database", status.matched.map .boolean),
    ("manifest_state", status.standing.map fun standing => .string standing.name),
    ("rows", status.rows.map .natural)]

/-- Compares an index with its definition. -/
def statusOf (catalog : Catalog) (manifest : Option Manifest) (entry : DefinitionEntry) :
    Except String Status := do
  let definition := entry.definition
  let standing := match manifest, definition.statement with
    | some manifest, .ok sql => some (manifest.standing definition.name sql)
    | _, _ => none
  if ← (Apply.isPresent Catalog.server definition.name catalog).1 then do
    let rows ← (catalog.ask (Index.countRows definition.name)).mapError fun error =>
      "Failed to count rows of " ++ marked definition.name ++ ": " ++ error.message
    let matched ← (Apply.matchesDatabase Catalog.server definition catalog).1
    .ok ⟨definition.name, entry.path, true, some matched, standing, some rows⟩
  else .ok ⟨definition.name, entry.path, false, none, standing, none⟩

def runStatus (database definitions : String) (manifest settings : Option String)
    (format : OutputFormat) (files : FileTree) : Outcome :=
  .ofLines files do
    let settings ← loadSettings files settings
    let set ← loadDefinitions files definitions settings.index.defaultTokenizer
    let catalog ← findDatabase files database
    let manifest ← match manifest with
      | none => .ok none
      | some path => ((Manifest.load files path).map some).mapError (manifestFailure path)
    let statuses ← set.entries.values.mapM (statusOf catalog manifest)
    let indexes ← (catalog.ask Index.list).mapError fun error =>
      "Failed to list indexes: " ++ error.message
    let untracked := indexes.filter fun name => !set.contains name
    .ok [structuredText format (.object [
      ("indexes", .array (statuses.map Status.toJson)),
      ("untracked", .strings untracked)])]

/-! ### Single indexes -/

def runMaintain (database index : String) (operation : Maintenance) (environment : Environment) :
    Outcome :=
  .ofLines environment.files do
    let catalog ← findDatabase environment.files database
    let _ ← (catalog.ask (Index.maintain index operation)).mapError fun error =>
      operation.render ++ " failed on " ++ marked index ++ ": " ++ error.message
    .ok ["Ran " ++ operation.render ++ " on " ++ marked index ++ " in " ++ environment.elapsed ++
      " ms."]

def forgetIndex (files : FileTree) (manifest : Option String) (index now : String) :
    Except String FileTree :=
  match manifest with
  | none => .ok files
  | some path =>
    if !files.contains path then .ok files
    else do
      let manifest ← (Manifest.load files path).mapError (manifestFailure path)
      if manifest.contains index then saveManifest files path (manifest.remove index now)
      else .ok files

/-- Drops an index that must be there. -/
def dropPresent {σ : Type} (server : Server σ) (index : String) (keepTriggers : Bool) :
    Work σ Unit := do
  if ← Apply.isPresent server index then
    server.work (fun error => "Failed to drop " ++ marked index ++ ": " ++ error.message)
      (Index.drop index !keepTriggers)
  else .ofResult (.error ("Index " ++ marked index ++ " does not exist"))

/-- Drops an index of an open database, and then its record. What is left is the outcome beside the
database, and the database. -/
def dropOpened {σ : Type} (server : Server σ) (index : String) (keepTriggers : Bool)
    (manifest : Option String) (now : String) (files : FileTree) (database : σ) : Outcome × σ :=
  match dropPresent server index keepTriggers database with
  | (.error reason, database) => (.failed files reason, database)
  | (.ok (), database) =>
    match forgetIndex files manifest index now with
    | .error reason => (.failed files reason, database)
    | .ok files => (.success files ["Dropped index " ++ marked index ++ "."], database)

def runDrop (database index : String) (keepTriggers : Bool) (manifest : Option String)
    (environment : Environment) : Outcome :=
  match findDatabase environment.files database with
  | .error reason => .failed environment.files reason
  | .ok catalog =>
    let (outcome, after) := dropOpened Catalog.server index keepTriggers manifest environment.now
      environment.files catalog
    if after = catalog then outcome
    else { outcome with files := keepDatabase outcome.files database after }

def run (command : Command) (environment : Environment) : Outcome :=
  match command with
  | .validate inputs settings => runValidate inputs settings environment.files
  | .compile definition triggers populate settings format =>
    runCompile definition triggers populate settings format environment.files
  | .decompile input format => runDecompile input format environment
  | .search arguments => runSearch arguments environment.files
  | .apply arguments => runApply arguments environment
  | .status database definitions manifest settings format =>
    runStatus database definitions manifest settings format environment.files
  | .maintain database index operation => runMaintain database index operation environment
  | .drop database index keepTriggers manifest =>
    runDrop database index keepTriggers manifest environment

end SearchIndex.Command
