import SearchIndex.Definition.Validity
import SearchIndex.Text.Ascii

/-!
Contract: statements that keep an index in step with its content table.

Three triggers repeat every change of the content table in the index: one adds the new row, one
takes the old row out, and one does both. A backfill copies the rows that are there already. All of
them give the row number and the columns in the same order, on both sides.
-/

namespace SearchIndex

namespace Synchronization

/-- A change of a row of the content table. -/
inductive Event where
  | insert
  | update
  | delete
deriving DecidableEq, Repr

def Event.keyword : Event → String
  | .insert => "INSERT"
  | .update => "UPDATE"
  | .delete => "DELETE"

/-- What is added to an index's name to name the trigger of a change. -/
def Event.ending : Event → String
  | .insert => "_ai"
  | .update => "_au"
  | .delete => "_ad"

/-- The changes that have triggers, in the order in which these are made. -/
def Event.all : List Event := [.insert, .delete, .update]

/-- A trigger and the statement that creates it. -/
structure Trigger where
  name : String
  event : Event
  sql : String
deriving DecidableEq, Repr

def triggerName (index : String) (event : Event) : String := index ++ event.ending

def dropTrigger (index : String) (event : Event) : String :=
  "DROP TRIGGER IF EXISTS " ++ Sql.identifier (triggerName index event) ++ ";"

def dropTriggers (index : String) : List String := Event.all.map (dropTrigger index)

def dropIndex (index : String) : String :=
  "DROP TABLE IF EXISTS " ++ Sql.identifier index ++ ";"

/-- Columns between commas. -/
def columnList (columns : List String) : String :=
  Text.joined ", " (columns.map Sql.column)

def rowNumber : String := "rowid"

def copyRows (index source : String) (columns : List String) (rowId : Option String) : String :=
  let list := columnList columns
  match rowId with
  | some rowId =>
    "INSERT INTO " ++ Sql.identifier index ++ " (rowid, " ++ list ++ ") SELECT " ++
      Sql.column rowId ++ ", " ++ list ++ " FROM " ++ Sql.identifier source ++ ";"
  | none =>
    "INSERT INTO " ++ Sql.identifier index ++ " (" ++ list ++ ") SELECT " ++ list ++ " FROM " ++
      Sql.identifier source ++ ";"

end Synchronization

/-- An index, its content table, the columns they share, and the column with the row number. -/
structure Synchronization where
  source : String
  index : String
  columns : List String
  rowId : Option String
deriving DecidableEq, Repr

namespace Synchronization

/-- The synchronization that a valid definition with a content table describes. -/
def ofDefinition (definition : Definition) : Except DefinitionError Synchronization := do
  definition.validate
  match definition.contentTable with
  | some source =>
    .ok ⟨source, definition.name, definition.columns, definition.contentRowId⟩
  | none => .error (.noContentTable definition.name)

def rowColumn (link : Synchronization) : String := link.rowId.getD rowNumber

/-- The row number and the columns of one side of a change. -/
def rowValues (link : Synchronization) (side : String) : String :=
  Text.joined ", " ((link.rowColumn :: link.columns).map fun column =>
    side ++ "." ++ Sql.column column)

def addRow (link : Synchronization) : String :=
  "INSERT INTO " ++ Sql.identifier link.index ++ "(rowid, " ++ columnList link.columns ++
    ") VALUES (" ++ link.rowValues "new" ++ ");"

/-- Takes the old row out of the index. -/
def removeRow (link : Synchronization) : String :=
  "INSERT INTO " ++ Sql.identifier link.index ++ "(" ++ Sql.identifier link.index ++
    ", rowid, " ++ columnList link.columns ++ ") VALUES('delete', " ++
    link.rowValues "old" ++ ");"

/-- What a trigger does. -/
def body (link : Synchronization) : Event → String
  | .insert => link.addRow
  | .delete => link.removeRow
  | .update => link.removeRow ++ " " ++ link.addRow

def trigger (link : Synchronization) (event : Event) : Trigger where
  name := triggerName link.index event
  event := event
  sql := "CREATE TRIGGER " ++ Sql.identifier (triggerName link.index event) ++ " AFTER " ++
    event.keyword ++ " ON " ++ Sql.identifier link.source ++ " BEGIN " ++ link.body event ++
    " END;"

/-- The triggers, in the order in which they are made. -/
def triggers (link : Synchronization) : List Trigger := Event.all.map link.trigger

/-- The statement that copies the rows of the content table. -/
def backfill (link : Synchronization) : String :=
  copyRows link.index link.source link.columns (some link.rowColumn)

end Synchronization

end SearchIndex
