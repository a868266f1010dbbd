import SearchIndex.Definition.Statement
import SearchIndex.Maintenance
import SearchIndex.Synchronization

/-!
Contract: the statements that are sent to a database.

A statement is known by what it does; `Statement.sql` is its text. Those that search carry the
text that was made for their request.
-/

namespace SearchIndex.Database

inductive Statement where
  /-- Creates an index. -/
  | createIndex (definition : Definition)
  /-- Drops an index if it is there. -/
  | dropIndex (index : String)
  /-- Creates a trigger. -/
  | createTrigger (link : Synchronization) (event : Synchronization.Event)
  /-- Drops a trigger if it is there. -/
  | dropTrigger (index : String) (event : Synchronization.Event)
  /-- Copies the rows of the content table. -/
  | backfill (link : Synchronization)
  /-- Runs a command on an index. -/
  | maintain (command : Maintenance) (index : String)
  /-- Asks for the statement that created a table. -/
  | storedStatement (table : String)
  /-- Asks for the names of the indexes. -/
  | listIndexes
  /-- Asks for the number of rows. -/
  | countRows (table : String)
  /-- Asks for ranked rows. -/
  | search (table sql : String)
  /-- Asks for the number of rows that match. -/
  | countMatches (table sql : String)
deriving DecidableEq, Repr

def Statement.sql : Statement → String
  | .createIndex definition => definition.render
  | .dropIndex index => Synchronization.dropIndex index
  | .createTrigger link event => (link.trigger event).sql
  | .dropTrigger index event => Synchronization.dropTrigger index event
  | .backfill link => link.backfill
  | .maintain command index => command.statement index
  | .storedStatement table =>
    "SELECT sql FROM sqlite_master WHERE type = 'table' AND name = " ++ Sql.literal table
  | .listIndexes =>
    "SELECT name FROM sqlite_master WHERE type = 'table' AND lower(sql) LIKE '%using fts5%' " ++
      "ORDER BY name"
  | .countRows table => "SELECT COUNT(*) AS total FROM " ++ Sql.identifier table
  | .search _ sql => sql
  | .countMatches _ sql => sql

end SearchIndex.Database
