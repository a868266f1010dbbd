import SearchIndex.Database.Exchange
import SearchIndex.Definition.Recovery

/-!
Contract: making, reading, searching and dropping indexes.

Every operation is an exchange with a database. An index is created with its triggers and its
backfill in one transaction, so that it is made as a whole or not at all; recreating it drops the
old one in the same transaction. What a request or a definition gets wrong is reported before
anything is sent.
-/

namespace SearchIndex.Index

open Database

/-- Which parts of an index with a content table are made. -/
structure CreateOptions where
  triggers : Bool
  populate : Bool
deriving DecidableEq, Repr

/-- What was made. -/
structure CreateReport where
  index : String
  /-- The statement that created the index. -/
  sql : String
  triggers : List String
  /-- The number of rows that were copied. -/
  populatedRows : Nat
deriving DecidableEq, Repr

def dropTriggers (index : String) : List Statement :=
  Synchronization.Event.all.map (.dropTrigger index)

/-- The changes that get triggers. -/
def triggeredEvents (definition : Definition) (options : CreateOptions) :
    List Synchronization.Event :=
  if definition.contentTable.isSome && options.triggers then Synchronization.Event.all else []

/-- Whether rows are copied. -/
def isPopulated (definition : Definition) (options : CreateOptions) : Bool :=
  definition.contentTable.isSome && options.populate

/-- The statements that create the triggers of an index, where its changes get any. -/
def triggerStatements (definition : Definition) (options : CreateOptions) :
    Except DefinitionError (List Statement) :=
  if definition.contentTable.isSome && options.triggers then
    (Synchronization.ofDefinition definition).map fun link =>
      Synchronization.Event.all.map (.createTrigger link)
  else .ok []

/-- The statement that copies the rows of the content table, where they are copied. -/
def backfillStatements (definition : Definition) (options : CreateOptions) :
    Except DefinitionError (List Statement) :=
  if isPopulated definition options then
    (Synchronization.ofDefinition definition).map fun link => [.backfill link]
  else .ok []

/-- The statements that make an index, after those that make room for it. -/
def script (drops : List Statement) (definition : Definition) (options : CreateOptions) :
    Except DefinitionError (List Statement) := do
  let _ ← definition.statement
  let triggers ← triggerStatements definition options
  let backfill ← backfillStatements definition options
  .ok (drops ++ [.createIndex definition] ++ triggers ++ backfill)

/-- What is reported of a transaction that made an index. -/
def report (definition : Definition) (options : CreateOptions) (effects : List Effect) :
    CreateReport where
  index := definition.name
  sql := definition.render
  triggers := (triggeredEvents definition options).map
    (Synchronization.triggerName definition.name)
  populatedRows :=
    if isPopulated definition options then (effects.getLast?.getD .none).changes else 0

/-- Makes an index after other statements. -/
def install (drops : List Statement) (definition : Definition) (options : CreateOptions) :
    Exchange CreateReport :=
  match script drops definition options with
  | .error error => .fail (.definition error)
  | .ok statements => do
    let effects ← .sendAll statements
    pure (report definition options effects)

/-- Makes an index. -/
def create (definition : Definition) (options : CreateOptions) : Exchange CreateReport :=
  install [] definition options

def dropStatements (index : String) : List Statement :=
  dropTriggers index ++ [.dropIndex index]

/-- Drops an index and makes it anew. -/
def recreate (definition : Definition) (options : CreateOptions) : Exchange CreateReport :=
  install (dropStatements definition.name) definition options

/-- The statement that created a table, if there is one. -/
def storedSql (table : String) : Exchange (Option String) := do
  let output ← .send (.storedStatement table)
  pure (output.rows.head?.bind fun row => row.text? "sql")

def load (index : String) : Exchange Definition.Recovered := do
  match ← storedSql index with
  | none => .fail (.notFound index)
  | some sql =>
    match Definition.Recovered.ofStatement? sql with
    | some recovered => pure recovered
    | none => .fail (.notAnIndex index)

/-- The names of the indexes. -/
def list : Exchange (List String) := do
  let output ← .send .listIndexes
  pure (output.rows.filterMap fun row => row.text? "name")

/-- The number in the first row of a count. -/
def totalOf (rows : List Row) : Exchange Nat :=
  match rows.head?.bind fun row => row.natural? "total" with
  | some total => pure total
  | none => .fail .missingTotal

def countRows (table : String) : Exchange Nat := do
  let output ← .send (.countRows table)
  totalOf output.rows

/-- A row that was found: its columns, its rank, and its excerpt if one was asked for. -/
structure Hit where
  row : Row
  rank : Float
  snippet : Option String

/-- A page of ranked rows, and the number of all rows that match. -/
structure Page where
  hits : List Hit
  total : Nat

/-- Takes the rank and the excerpt out of a row. -/
def hitOf (includeSnippet : Bool) (row : Row) : Except IndexError Hit :=
  match row.number? "rank" with
  | none => .error (.missingNumber "rank")
  | some rank =>
    let columns : Row := row.erase "rank"
    .ok <|
      if includeSnippet then ⟨columns.erase "snippet", rank, columns.text? "snippet"⟩
      else ⟨columns, rank, none⟩

def checkColumns (index : String) (request : Search.Request) : Exchange Unit :=
  if request.columns.isNone then pure ()
  else do
    match (← load index).columns with
    | none => pure ()
    | some available =>
      match request.checkColumns available with
      | .ok () => pure ()
      | .error error => .fail (.request error)

def search (index : String) (request : Search.Request) : Exchange Page :=
  match request.statement index, request.countStatement index with
  | .error error, _ => .fail (.request error)
  | _, .error error => .fail (.request error)
  | .ok sql, .ok countSql => do
    checkColumns index request
    let output ← .send (.search index sql)
    let hits ← .done (output.rows.mapM (hitOf request.includeSnippet))
    let count ← .send (.countMatches index countSql)
    let total ← totalOf count.rows
    pure ⟨hits, total⟩

def maintain (index : String) (command : Maintenance) : Exchange Effect := do
  let _ ← load index
  let output ← .send (.maintain command index)
  pure output.effect

def drop (index : String) (triggers : Bool) : Exchange Unit := do
  let _ ← .sendAll ((if triggers then dropTriggers index else []) ++ [.dropIndex index])
  pure ()

/-! ### Results as documents -/

def CreateReport.toJson (report : CreateReport) : Json :=
  .object [
    ("table", .string report.index),
    ("ddl", .string report.sql),
    ("triggers", .strings report.triggers),
    ("populated_rows", .natural report.populatedRows)]

def Hit.toJson (hit : Hit) : Json :=
  .ofFields [
    ("row", some hit.row.toJson),
    ("rank", some (.real hit.rank)),
    ("snippet", hit.snippet.map .string)]

def Page.toJson (page : Page) : Json :=
  .object [
    ("results", .array (page.hits.map Hit.toJson)),
    ("total", .natural page.total)]

end SearchIndex.Index
