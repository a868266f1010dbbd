import SearchIndex.Definition.Validity
import SearchIndex.Tokenizer.Argument

/-!
Contract: the statement that creates an index.

`Definition.statement` checks a definition and writes its statement: the columns in order, each
with a mark if it is not indexed, then the options. The tokenizer is always written, the lengths of
beginnings and the content table only where there are any.
-/

namespace SearchIndex.Definition

def columnText (definition : Definition) (column : String) : String :=
  column ++ if definition.isUnindexed column then " UNINDEXED" else ""

def optionText (key value : String) : String := key ++ "=" ++ Sql.literal value

/-- Lengths with blanks between them. -/
def lengthsText (lengths : List UInt32) : String :=
  Text.joined " " (lengths.map fun length => Decimal.natural length.toNat)

def contentOptions (definition : Definition) : List String :=
  match definition.contentTable with
  | none => []
  | some table =>
    optionText "content" table ::
      definition.contentRowId.toList.map (optionText "content_rowid")

/-- The arguments of the module, in order. -/
def arguments (definition : Definition) : List String :=
  definition.columns.map definition.columnText ++
    [optionText "tokenize" definition.tokenizer.encode] ++
    definition.prefixLengths?.toList.map (fun lengths =>
      optionText "prefix" (lengthsText lengths)) ++
    definition.contentOptions

/-- The statement that creates an index, whether or not its definition is valid. -/
def render (definition : Definition) : String :=
  "CREATE VIRTUAL TABLE " ++ Sql.identifier definition.name ++ " USING fts5(" ++
    Text.joined ", " definition.arguments ++ ");"

/-- The statement that creates an index. -/
def statement (definition : Definition) : Except DefinitionError String := do
  definition.validate
  .ok definition.render

end SearchIndex.Definition
