import SearchIndex.Definition
import SearchIndex.Sql.VirtualTable
import SearchIndex.Tokenizer.Argument

/-!
Contract: what a statement tells about an index.

Only a text in which `using fts5` occurs, in capital or small letters, describes an index. Of such
a text each part that can be read is known: the name from the head, columns and options from the
arguments. Options with other names are passed over; one that is repeated counts last, except that
all lengths of beginnings are kept.
-/

namespace SearchIndex.Definition

/-- Whether a statement creates a full-text index. -/
def isIndexStatement (sql : String) : Bool :=
  Text.occurs "using fts5".toList (sql.toList.map Char.toLower)

/-- The lengths that a text lists; words that are no number are passed over. -/
def lengthsOf (text : String) : List UInt32 :=
  (Text.words text.toList).filterMap fun word => Decimal.word? (String.ofList word)

/-- What the arguments of the module tell. -/
structure ArgumentFacts where
  columns : List String
  unindexed : List String
  tokenizer : Option Tokenizer
  lengths : List UInt32
  contentTable : Option String
  contentRowId : Option String
deriving DecidableEq, Repr

namespace ArgumentFacts

/-- Nothing told. -/
def none : ArgumentFacts := ⟨[], [], .none, [], .none, .none⟩

/-- What an option adds; its name may stand in capital or small letters. -/
def addOption (facts : ArgumentFacts) (key value : String) : ArgumentFacts :=
  match Text.lowered key with
  | "tokenize" => { facts with tokenizer := some (Tokenizer.decode value) }
  | "prefix" => { facts with lengths := facts.lengths ++ lengthsOf value }
  | "content" => { facts with contentTable := some value }
  | "content_rowid" => { facts with contentRowId := some value }
  | _ => facts

def add (facts : ArgumentFacts) : Sql.ModuleArgument → ArgumentFacts
  | .column name unindexed =>
    { facts with
      columns := facts.columns ++ [name]
      unindexed := if unindexed then facts.unindexed ++ [name] else facts.unindexed }
  | .option key value => facts.addOption key value

def ofArguments (arguments : List Sql.ModuleArgument) : ArgumentFacts :=
  arguments.foldl add none

end ArgumentFacts

def nonEmpty? {α : Type} (list : List α) : Option (List α) :=
  if list.isEmpty then none else some list

namespace Recovered

def ofFacts (name : Option String) (facts : ArgumentFacts) : Recovered where
  name := name
  columns := nonEmpty? facts.columns
  tokenizer := facts.tokenizer
  prefixIndex := (nonEmpty? facts.lengths).map .ofLengths
  contentTable := facts.contentTable
  contentRowId := facts.contentRowId
  unindexed := nonEmpty? facts.unindexed

/-- What the parts of a statement tell. -/
def ofVirtualTable (table : Sql.VirtualTable) : Recovered :=
  ofFacts (table.head.toOption.map Sql.Head.name)
    (.ofArguments (table.arguments.toOption.getD []))

/-- What a statement tells, if it creates a full-text index. -/
def ofStatement? (sql : String) : Option Recovered :=
  if isIndexStatement sql then some (ofVirtualTable (.parse sql)) else none

end Recovered

end SearchIndex.Definition
