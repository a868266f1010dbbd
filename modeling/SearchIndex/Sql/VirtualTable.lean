import SearchIndex.Sql.Token

/-!
Contract: the parts of a statement that creates a virtual table.

The statement names the table, optionally with a schema before it, and the module, whose arguments
stand between parentheses. An argument is an option, `key = value`, or a column. The head and the
arguments are read independently: where the head is at fault, the arguments are looked for after
the first `USING` with a module name.
-/

namespace SearchIndex.Sql

/-- What stands before the arguments. -/
structure Head where
  ifNotExists : Bool
  schema : Option String
  name : String
  moduleName : String
deriving DecidableEq, Repr

inductive ModuleArgument where
  | column (name : String) (unindexed : Bool)
  | option (key value : String)
deriving DecidableEq, Repr

/-- Why a part of the statement cannot be read. -/
inductive StatementError where
  /-- Something else was expected at a token, counted from zero. -/
  | expected (what : String) (position : Nat)
  /-- No arguments follow. -/
  | missingArguments
deriving DecidableEq, Repr

def StatementError.message : StatementError → String
  | .expected what position => "expected " ++ what ++ " at token " ++ toString position
  | .missingArguments => "missing module argument list"

/-- A statement that creates a virtual table, as far as it can be read. -/
structure VirtualTable where
  head : Except StatementError Head
  arguments : Except StatementError (List ModuleArgument)

/-- Tokens that are left, and the number of those before them. -/
structure Cursor where
  position : Nat
  rest : List Token
deriving DecidableEq, Repr

namespace Cursor

/-- The place after the next token. -/
def advance (cursor : Cursor) : Cursor :=
  ⟨cursor.position + 1, cursor.rest.drop 1⟩

/-- Reports that something else was expected here. -/
def expected {α : Type} (cursor : Cursor) (what : String) : Except StatementError α :=
  .error (.expected what cursor.position)

/-- Whether the next token is a keyword. -/
def atKeyword (cursor : Cursor) (keyword : String) : Bool :=
  cursor.rest.head?.any (Token.isKeyword keyword)

def keyword (cursor : Cursor) (word : String) : Except StatementError Cursor :=
  if cursor.atKeyword word then .ok cursor.advance else cursor.expected word

def name (cursor : Cursor) (what : String) : Except StatementError (String × Cursor) :=
  match cursor.rest.head?.bind Token.name? with
  | some name => .ok (name, cursor.advance)
  | none => cursor.expected what

/-- Reads `IF NOT EXISTS`, if it is there, and tells whether it is. -/
def ifNotExists (cursor : Cursor) : Except StatementError (Bool × Cursor) :=
  if cursor.atKeyword "IF" then do
    let cursor ← cursor.advance.keyword "NOT"
    let cursor ← cursor.keyword "EXISTS"
    .ok (true, cursor)
  else .ok (false, cursor)

/-- Reads the table's name and the schema before it. -/
def qualifiedName (cursor : Cursor) :
    Except StatementError (Option String × String × Cursor) := do
  let (first, cursor) ← cursor.name "table name"
  if cursor.rest.head? = some .dot then do
    let (name, cursor) ← cursor.advance.name "table name"
    .ok (some first, name, cursor)
  else .ok (none, first, cursor)

def head (cursor : Cursor) : Except StatementError (Head × Cursor) := do
  let cursor ← cursor.keyword "CREATE"
  let cursor ← cursor.keyword "VIRTUAL"
  let cursor ← cursor.keyword "TABLE"
  let (ifNotExists, cursor) ← cursor.ifNotExists
  let (schema, name, cursor) ← cursor.qualifiedName
  let cursor ← cursor.keyword "USING"
  let (moduleName, cursor) ← cursor.name "module name"
  .ok (⟨ifNotExists, schema, name, moduleName⟩, cursor)

end Cursor

/-- Tokens between two separators of an argument list, and the separator after them. The last
segment of a list without a closing parenthesis has none. -/
structure Segment where
  tokens : List Token
  terminator : Option Token
deriving DecidableEq, Repr

namespace Segment

/-- Adds a token in front of the first of some segments. -/
def extend (token : Token) (segments : Segment × List Segment) : Segment × List Segment :=
  ({ segments.1 with tokens := token :: segments.1.tokens }, segments.2)

/-- Cuts the tokens after an opening parenthesis at the commas outside further parentheses, up to
the closing one. `depth` counts the further parentheses that are open. The result is the first
segment and those after it. -/
def split (depth : Nat) : List Token → Segment × List Segment
  | [] => (⟨[], none⟩, [])
  | token :: rest =>
    match token, depth with
    | .leftParen, depth => extend .leftParen (split (depth + 1) rest)
    | .rightParen, depth + 1 => extend .rightParen (split depth rest)
    | .rightParen, 0 => (⟨[], some .rightParen⟩, [])
    | .comma, 0 =>
      let (first, more) := split 0 rest
      (⟨[], some .comma⟩, first :: more)
    | token, depth => extend token (split depth rest)

/-- The segments of an argument list, from after its opening parenthesis. -/
def all (tokens : List Token) : List Segment :=
  let (first, more) := split 0 tokens
  first :: more

def plainText (tokens : List Token) : String :=
  Text.joined " " (tokens.map Token.text)

/-- The argument that a segment writes. An empty segment writes none; the first equals sign makes
an option; else the first token names a column. -/
def argument? (segment : Segment) : Option ModuleArgument :=
  match segment.tokens with
  | [] => none
  | first :: others =>
    if segment.tokens.contains .equals then
      let key := segment.tokens.takeWhile (· != .equals)
      let value := (segment.tokens.dropWhile (· != .equals)).drop 1
      some (.option (plainText key) (plainText value))
    else
      some (.column first.text (others.getLast?.any (Token.isKeyword "UNINDEXED")))

end Segment

namespace ModuleArgument

def ofTokens : List Token → Except StatementError (List ModuleArgument)
  | .leftParen :: rest => .ok ((Segment.all rest).filterMap Segment.argument?)
  | _ => .error .missingArguments

end ModuleArgument

namespace VirtualTable

def namesModule : Token → Bool
  | .word _ => true
  | .quoted _ => true
  | _ => false

/-- What follows the first `USING` with a module name. -/
def afterModule : List Token → List Token
  | [] => []
  | token :: rest =>
    if token.isKeyword "USING" && rest.head?.any namesModule then rest.drop 1
    else afterModule rest

/-- Reads the parts of a statement from its tokens. -/
def ofTokens (tokens : List Token) : VirtualTable :=
  match Cursor.head ⟨0, tokens⟩ with
  | .ok (head, cursor) => ⟨.ok head, ModuleArgument.ofTokens cursor.rest⟩
  | .error fault => ⟨.error fault, ModuleArgument.ofTokens (afterModule tokens)⟩

/-- Reads the parts of a statement. -/
def parse (sql : String) : VirtualTable := ofTokens (Token.scan sql)

end VirtualTable

end SearchIndex.Sql
