import SearchIndex.NameMap

/-!
Contract: what a database holds, as far as indexes are concerned.

A catalog lists the tables with the statements that created them, without the closing semicolon,
and the triggers with the tables they watch. Rows are not part of it.
-/

namespace SearchIndex.Database

/-- The tables and triggers of a database. -/
structure Catalog where
  /-- The statement that created each table. -/
  tables : NameMap String
  /-- The table that each trigger watches. -/
  triggers : NameMap String
deriving DecidableEq

/-- A database without tables. -/
def Catalog.empty : Catalog := ⟨.empty, .empty⟩

instance : Inhabited Catalog := ⟨.empty⟩

end SearchIndex.Database
