import SearchIndex.Decimal.Integer
import SearchIndex.Definition
import SearchIndex.Sql.Quoted
import SearchIndex.Text.Blank

/-!
Contract: which definitions can become an index.

`Definition.validate` makes its checks in a fixed order and reports the first that fails: the
tokenizer, the name, the columns one after another, the columns that are not indexed, the row
number, the content table, and the lengths of beginnings.
-/

namespace SearchIndex

/-- Why a definition cannot become an index. -/
inductive DefinitionError where
  | unknownTokenizer (name : String)
  | removeDiacriticsRange (value : UInt8)
  | caseSensitiveNeedsTrigram
  | caseSensitiveRange (value : UInt8)
  | emptyName
  | noColumns
  | columnName (name : String)
  | duplicateColumn (name : String)
  | unindexedNotAColumn (name : String)
  | rowIdWithoutContent
  | identifierName (name : String)
  | prefixLengthRange (length : UInt32)
  | noContentTable (name : String)
deriving DecidableEq, Repr

def DefinitionError.message : DefinitionError → String
  | .unknownTokenizer name => "Invalid tokenizer type: " ++ name
  | .removeDiacriticsRange value =>
    "remove_diacritics must be 0, 1, or 2 (got " ++ Decimal.natural value.toNat ++ ")"
  | .caseSensitiveNeedsTrigram => "case_sensitive is only valid for trigram tokenizer"
  | .caseSensitiveRange value =>
    "case_sensitive must be 0 or 1 (got " ++ Decimal.natural value.toNat ++ ")"
  | .emptyName => "table name cannot be empty"
  | .noColumns => "table must define at least one column"
  | .columnName name => "invalid column name: '" ++ name ++ "'"
  | .duplicateColumn name => "duplicate column: " ++ name
  | .unindexedNotAColumn name => "unindexed column '" ++ name ++ "' is not a table column"
  | .rowIdWithoutContent => "content_rowid requires a content table"
  | .identifierName name => "invalid identifier: '" ++ name ++ "'"
  | .prefixLengthRange length =>
    "prefix length must be between 1 and 999 (got " ++ Decimal.natural length.toNat ++ ")"
  | .noContentTable name =>
    "index '" ++ name ++ "' has no content table to synchronize with"

/-- Fails with an error where a condition does not hold. -/
def require {ε : Type} (condition : Bool) (error : ε) : Except ε Unit :=
  if condition then .ok () else .error error

def Tokenizer.Kind.parse (name : String) : Except DefinitionError Tokenizer.Kind :=
  match Tokenizer.Kind.ofName? name with
  | some kind => .ok kind
  | none => .error (.unknownTokenizer name)

/-- Checks the numbers among the parameters. -/
def Tokenizer.validate (tokenizer : Tokenizer) : Except DefinitionError Unit := do
  let parameters := tokenizer.parameters.getD .none
  match parameters.removeDiacritics with
  | some value => require (value ≤ 2) (.removeDiacriticsRange value)
  | none => .ok ()
  match parameters.caseSensitive with
  | some value =>
    require (tokenizer.kind = .trigram) .caseSensitiveNeedsTrigram
    require (value ≤ 1) (.caseSensitiveRange value)
  | none => .ok ()

namespace Definition

/-- Checks columns one after another; `seen` holds those before them. -/
def validateColumns (seen : List String) : List String → Except DefinitionError Unit
  | [] => .ok ()
  | column :: rest => do
    require (Sql.isBare column) (.columnName column)
    require (!seen.contains column) (.duplicateColumn column)
    validateColumns (column :: seen) rest

def validateUnindexed (columns : List String) : List String → Except DefinitionError Unit
  | [] => .ok ()
  | column :: rest => do
    require (columns.contains column) (.unindexedNotAColumn column)
    validateUnindexed columns rest

/-- Checks the names that the content table brings. -/
def validateContent (definition : Definition) : Except DefinitionError Unit := do
  let identifier (name : Option String) : Except DefinitionError Unit :=
    match name with
    | some name => require (Sql.isBare name) (.identifierName name)
    | none => .ok ()
  require (definition.contentRowId.isNone || definition.contentTable.isSome)
    .rowIdWithoutContent
  identifier definition.contentTable
  identifier definition.contentRowId

/-- Checks the lengths of beginnings. -/
def validateLengths : List UInt32 → Except DefinitionError Unit
  | [] => .ok ()
  | length :: rest => do
    require (1 ≤ length && length ≤ 999) (.prefixLengthRange length)
    validateLengths rest

/-- Checks that a definition can become an index. -/
def validate (definition : Definition) : Except DefinitionError Unit := do
  definition.tokenizer.validate
  require (!(Text.trim definition.name.toList).isEmpty) .emptyName
  require (!definition.columns.isEmpty) .noColumns
  validateColumns [] definition.columns
  validateUnindexed definition.columns definition.unindexed
  definition.validateContent
  validateLengths (definition.prefixLengths?.getD [])

end Definition

end SearchIndex
