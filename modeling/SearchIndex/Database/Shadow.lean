import SearchIndex.Decimal.Integer
import SearchIndex.Definition
import SearchIndex.Sql.Quoted

/-!
Contract: the tables in which an index keeps what it knows.

An index is made together with tables of its own, its shadows, whose names begin with its name.
They are ordinary tables. An index over a content table keeps no texts, so it has no shadow for
them.
-/

namespace SearchIndex.Database

/-- What a shadow is for. -/
inductive Shadow where
  /-- The terms with their places. -/
  | data
  /-- The pages on which terms begin. -/
  | idx
  /-- The texts. -/
  | content
  /-- The lengths of the texts. -/
  | docsize
  /-- The settings. -/
  | config
deriving DecidableEq, Repr

namespace Shadow

/-- All shadows, in the order in which they are made. -/
def all : List Shadow := [.data, .idx, .content, .docsize, .config]

def ending : Shadow → String
  | .data => "_data"
  | .idx => "_idx"
  | .content => "_content"
  | .docsize => "_docsize"
  | .config => "_config"

/-- The name of an index's shadow. -/
def name (index : String) (shadow : Shadow) : String := index ++ shadow.ending

/-- The columns of a shadow, and what stands behind them. -/
def layout (columns : Nat) : Shadow → String
  | .data => "(id INTEGER PRIMARY KEY, block BLOB)"
  | .idx => "(segid, term, pgno, PRIMARY KEY(segid, term)) WITHOUT ROWID"
  | .content =>
    let texts := (List.range columns).map fun position => ", c" ++ Decimal.natural position
    "(id INTEGER PRIMARY KEY" ++ String.join texts ++ ")"
  | .docsize => "(id INTEGER PRIMARY KEY, sz BLOB)"
  | .config => "(k PRIMARY KEY, v) WITHOUT ROWID"

/-- The shadows of an index, in the order in which they are made. -/
def ofDefinition (definition : Definition) : List Shadow :=
  if definition.contentTable.isSome then all.filter (· ≠ .content) else all

/-- The statement that is kept of an index's shadow. -/
def statement (definition : Definition) (shadow : Shadow) : String :=
  "CREATE TABLE " ++ Sql.literal (name definition.name shadow) ++
    layout definition.columns.length shadow

end Shadow

end SearchIndex.Database
