import SearchIndex.Tokenizer

/-!
Contract: what a full-text index is made of.

A definition names the index and its columns. Columns may be stored without being indexed. The
texts may live in a table of their own, the content table, whose row number stands in a column that
can be named. A recovered definition is one that was read from a statement: each part is known or
not.
-/

namespace SearchIndex

/-- The lengths of the beginnings of terms that have an index of their own. -/
structure PrefixIndex where
  enabled : Bool
  lengths : List UInt32
deriving DecidableEq, Repr

/-- An enabled index over beginnings of the given lengths. -/
def PrefixIndex.ofLengths (lengths : List UInt32) : PrefixIndex := ⟨true, lengths⟩

/-- The definition of a full-text index. -/
structure Definition where
  name : String
  columns : List String
  /-- How the texts are cut into terms. -/
  tokenizer : Tokenizer
  /-- The index over beginnings of terms, if one is described. -/
  prefixIndex : Option PrefixIndex
  /-- The table that holds the texts, if it is not the index itself. -/
  contentTable : Option String
  /-- The column of the content table that holds the row number. -/
  contentRowId : Option String
  /-- The columns that are stored and not indexed. -/
  unindexed : List String
deriving DecidableEq, Repr

namespace Definition

/-- An index over some columns with the standard tokenizer. -/
def new (name : String) (columns : List String) : Definition :=
  ⟨name, columns, .standard, none, none, none, []⟩

def withTokenizer (definition : Definition) (tokenizer : Tokenizer) : Definition :=
  { definition with tokenizer }

/-- The definition with an index over beginnings of terms. -/
def withPrefixLengths (definition : Definition) (lengths : List UInt32) : Definition :=
  { definition with prefixIndex := some (.ofLengths lengths) }

def withContent (definition : Definition) (table : String) (rowId : Option String) :
    Definition :=
  { definition with contentTable := some table, contentRowId := rowId }

def isUnindexed (definition : Definition) (column : String) : Bool :=
  definition.unindexed.contains column

def withUnindexed (definition : Definition) (column : String) : Definition :=
  if definition.isUnindexed column then definition
  else { definition with unindexed := definition.unindexed ++ [column] }

/-- The lengths of beginnings to index, if that is enabled and there are any. -/
def prefixLengths? (definition : Definition) : Option (List UInt32) :=
  match definition.prefixIndex with
  | some index => if index.enabled && !index.lengths.isEmpty then some index.lengths else none
  | none => none

/-- What is known of a definition. -/
structure Recovered where
  name : Option String
  columns : Option (List String)
  tokenizer : Option Tokenizer
  prefixIndex : Option PrefixIndex
  contentTable : Option String
  contentRowId : Option String
  unindexed : Option (List String)
deriving DecidableEq, Repr

namespace Recovered

def unknown : Recovered := ⟨none, none, none, none, none, none, none⟩

/-- The full definition, if the name and the columns are known. -/
def complete? (recovered : Recovered) : Option Definition :=
  match recovered.name, recovered.columns with
  | some name, some columns =>
    some {
      name, columns
      tokenizer := recovered.tokenizer.getD .standard
      prefixIndex := recovered.prefixIndex
      contentTable := recovered.contentTable
      contentRowId := recovered.contentRowId
      unindexed := recovered.unindexed.getD [] }
  | _, _ => none

end Recovered

end Definition

end SearchIndex
