import SearchIndex.Database.Catalog
import SearchIndex.Database.Server
import SearchIndex.Database.Shadow
import SearchIndex.Definition.Recovery

/-!
Contract: a catalog answers exchanges.

The tables of a catalog have no rows, so that counts are zero and searches find nothing. Names of
tables and triggers are compared without regard to the case of ASCII letters when something is
created or dropped, and exactly when a stored statement is asked for. An index comes and goes
together with its shadows, and cannot be used without its terms and settings. A transaction changes
the catalog only if none of its statements is refused.
-/

namespace SearchIndex.Database

namespace Catalog

/-- The name under which an entry stands, up to the case of its letters. -/
def findName? {α : Type} (map : NameMap α) (name : String) : Option String :=
  map.names.find? fun other => Text.sameLetters other name

/-- The entries whose names differ from a name in more than the case of letters. -/
def without {α : Type} (map : NameMap α) (name : String) : NameMap α :=
  match findName? map name with
  | some found => map.erase found
  | none => map

/-- The text that is kept of a statement: all but its closing semicolon. -/
def storedText (sql : String) : String :=
  match sql.toList.getLast? with
  | some ';' => String.ofList sql.toList.dropLast
  | _ => sql

/-- Whether a stored statement created a virtual table. -/
def isVirtual (sql : String) : Bool :=
  match Sql.Token.scan sql with
  | first :: second :: _ => first.isKeyword "CREATE" && second.isKeyword "VIRTUAL"
  | _ => false

/-- The reason for refusing a statement about a table that is not there. -/
def noTable (name : String) : String := "no such table: " ++ name

/-- No rows. -/
def nothing : Output := ⟨[], .none⟩

def single (column : String) (value : Json) : Output :=
  ⟨[NameMap.empty.insert column value], .none⟩

/-- The reason for refusing to create a table whose name, as it is written, is taken. -/
def taken (written : String) : String := "table " ++ written ++ " already exists"

def createTable (catalog : Catalog) (name written sql : String) : Except String Catalog :=
  if (findName? catalog.tables name).isSome then .error (taken written)
  else .ok { catalog with tables := catalog.tables.insert name (storedText sql) }

def createShadow (definition : Definition) (catalog : Catalog) (shadow : Shadow) :
    Except String Catalog :=
  let name := shadow.name definition.name
  (catalog.createTable name (Sql.literal name) (shadow.statement definition)).mapError
    fun reason => "fts5: error creating shadow table " ++
      String.ofList (Sql.doubled '\'' name.toList) ++ ": " ++ reason

/-- Creates an index and then its shadows. -/
def createIndex (catalog : Catalog) (definition : Definition) : Except String Catalog := do
  let catalog ←
    catalog.createTable definition.name (Sql.identifier definition.name) definition.render
  (Shadow.ofDefinition definition).foldlM (createShadow definition) catalog

/-- Whether a table is there. -/
def has (catalog : Catalog) (name : String) : Bool := (findName? catalog.tables name).isSome

/-- The reason for refusing a statement about an index that cannot be opened. -/
def unopened (name : String) : String := "vtable constructor failed: " ++ name

/-- Refuses to go on with an index whose terms or settings are gone. Other tables always open. -/
def checkOpen (catalog : Catalog) (name sql : String) : Except String Unit :=
  let needed := [Shadow.data, .config].map fun shadow => shadow.name name
  if isVirtual sql && !needed.all catalog.has then
    .error (unopened name)
  else .ok ()

/-- The names of a table and of what goes with it. -/
def droppedNames (name sql : String) : List String :=
  if isVirtual sql then name :: Shadow.all.map fun shadow => shadow.name name else [name]

def eraseTable (catalog : Catalog) (name : String) : Catalog :=
  ⟨without catalog.tables name,
    catalog.triggers.keep fun watched => !Text.sameLetters watched name⟩

/-- Drops a table if it is there, with its triggers and with its shadows. -/
def dropTable (catalog : Catalog) (name : String) : Except String Catalog :=
  match findName? catalog.tables name with
  | none => .ok catalog
  | some found => do
    let sql := (catalog.tables.get? found).getD ""
    catalog.checkOpen found sql
    .ok ((droppedNames found sql).foldl eraseTable catalog)

def createTrigger (catalog : Catalog) (name table : String) : Except String Catalog :=
  match (findName? catalog.tables table).bind catalog.tables.get? with
  | none => .error (noTable ("main." ++ table))
  | some sql =>
    if isVirtual sql then .error "cannot create triggers on virtual tables"
    else if (findName? catalog.triggers name).isSome then
      .error ("trigger " ++ Sql.identifier name ++ " already exists")
    else .ok { catalog with triggers := catalog.triggers.insert name table }

def needTable (catalog : Catalog) (name : String) : Except String Catalog :=
  match findName? catalog.tables name with
  | none => .error (noTable name)
  | some found => do
    catalog.checkOpen found ((catalog.tables.get? found).getD "")
    .ok catalog

/-- Whether a stored statement made an index that keeps the texts itself. -/
def keepsTexts (sql : String) : Bool :=
  (Definition.Recovered.ofStatement? sql).any fun recovered => recovered.contentTable.isNone

/-- Refuses to go on with an index whose own texts are gone. -/
def needTexts (catalog : Catalog) (name : String) : Except String Catalog := do
  let catalog ← catalog.needTable name
  match findName? catalog.tables name with
  | none => .ok catalog
  | some found =>
    let texts := Shadow.content.name found
    if keepsTexts ((catalog.tables.get? found).getD "") && !catalog.has texts then
      .error (noTable ("main." ++ texts))
    else .ok catalog

def change (catalog : Catalog) : Statement → Except String Catalog
  | .createIndex definition => catalog.createIndex definition
  | .dropIndex index => catalog.dropTable index
  | .createTrigger link event =>
    catalog.createTrigger (Synchronization.triggerName link.index event) link.source
  | .dropTrigger index event =>
    .ok { catalog with
      triggers := without catalog.triggers (Synchronization.triggerName index event) }
  | .backfill link => catalog.needTable link.source
  | .maintain .rebuild index => catalog.needTexts index
  | .maintain _ index => catalog.needTable index
  | .storedStatement _ => .ok catalog
  | .listIndexes => .ok catalog
  | .countRows table => catalog.needTexts table
  | .search table _ => catalog.needTable table
  | .countMatches table _ => catalog.needTable table

def answer (catalog : Catalog) : Statement → Output
  | .storedStatement table =>
    match catalog.tables.get? table with
    | some sql => single "sql" (.string sql)
    | none => nothing
  | .listIndexes =>
    ⟨(catalog.tables.entries.filter fun entry => Definition.isIndexStatement entry.2).map
      fun entry => NameMap.empty.insert "name" (.string entry.1), .none⟩
  | .countRows _ => single "total" (.integer 0)
  | .countMatches _ _ => single "total" (.integer 0)
  | _ => nothing

/-- Runs statements one after another. The first refused one is reported. -/
def changeAll (catalog : Catalog) : List Statement → Except IndexError Catalog
  | [] => .ok catalog
  | statement :: rest =>
    match catalog.change statement with
    | .ok next => next.changeAll rest
    | .error reason => .error (.refused reason statement.sql)

/-- A catalog as a database. What is refused leaves it as it was. -/
def server : Server Catalog where
  execute statement catalog :=
    match catalog.change statement with
    | .ok changed => (.ok (catalog.answer statement), changed)
    | .error reason => (.error (.refused reason statement.sql), catalog)
  transact statements catalog :=
    match catalog.changeAll statements with
    | .ok changed => (.ok (statements.map fun _ => .none), changed)
    | .error error => (.error error, catalog)

/-- The end of an exchange that is only answered. -/
def ask {α : Type} (catalog : Catalog) (exchange : Exchange α) : Except IndexError α :=
  (server.run exchange catalog).1

end Catalog

end SearchIndex.Database
