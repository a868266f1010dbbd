import SearchIndex.Database.Row
import SearchIndex.Database.Statement
import SearchIndex.Search.Query

/-!
Contract: talks with a database.

An exchange sends statements, alone or several in one transaction, and goes on with what comes
back, until it ends with a value or an error. A statement that is refused ends it. What answers is
not fixed here: `Exchange.play` answers from prepared replies and keeps what was sent.
-/

namespace SearchIndex.Database

/-- Why work on an index fails. -/
inductive IndexError where
  /-- The database cannot be used. -/
  | connection (reason : String)
  /-- A statement was refused. -/
  | refused (reason sql : String)
  | definition (error : DefinitionError)
  | request (error : Search.RequestError)
  | notFound (name : String)
  | notAnIndex (name : String)
  /-- A text came back that is no proper text. -/
  | badText (fault : Text.Malformed)
  /-- A column that must hold a number does not. -/
  | missingNumber (column : String)
  /-- A count came back without its number. -/
  | missingTotal
deriving Repr

def IndexError.message : IndexError → String
  | .connection reason => "database error: " ++ reason
  | .refused reason sql => "SQL error: " ++ reason ++ " (in `" ++ sql ++ "`)"
  | .definition error => "invalid definition: " ++ error.message
  | .request error => error.message
  | .notFound name => "index not found: " ++ name
  | .notAnIndex name => "table '" ++ name ++ "' is not an FTS5 index"
  | .badText fault => "conversion error: invalid UTF-8 in text value: " ++ fault.message
  | .missingNumber column => "conversion error: missing numeric column '" ++ column ++ "'"
  | .missingTotal => "conversion error: count query returned no total"

/-- What a statement did: the number of rows it changed and the number of the last new row. -/
structure Effect where
  changes : Nat
  lastRowId : Int
deriving DecidableEq, Repr

def Effect.none : Effect := ⟨0, 0⟩

/-- What comes back for a statement. -/
structure Output where
  rows : List Row
  effect : Effect

/-- A talk with a database that ends with a value. -/
inductive Exchange (α : Type) where
  | done (result : Except IndexError α)
  | execute (statement : Statement) (next : Output → Exchange α)
  | transact (statements : List Statement) (next : List Effect → Exchange α)

namespace Exchange

variable {α β : Type}

/-- Goes on with another exchange after the end of this one. -/
def andThen (exchange : Exchange α) (next : α → Exchange β) : Exchange β :=
  match exchange with
  | .done (.ok value) => next value
  | .done (.error error) => .done (.error error)
  | .execute statement rest => .execute statement fun output => (rest output).andThen next
  | .transact statements rest => .transact statements fun effects => (rest effects).andThen next

instance : Monad Exchange where
  pure value := .done (.ok value)
  bind := andThen

def fail (error : IndexError) : Exchange α := .done (.error error)

def send (statement : Statement) : Exchange Output := .execute statement pure

def sendAll (statements : List Statement) : Exchange (List Effect) := .transact statements pure

/-- A reply that was prepared: a refusal, or rows, the effect of a single statement, and the
effects of a transaction where they are given. -/
structure Reply where
  refusal : Option String
  rows : List Row
  effect : Effect
  effects : Option (List Effect)

def Reply.empty : Reply := ⟨none, [], .none, none⟩

/-- What was sent: a statement, or those of a transaction. -/
inductive Call where
  | execute (sql : String)
  | transact (statements : List String)
deriving DecidableEq, Repr

/-- Answers an exchange from prepared replies, and keeps what was sent. A transaction is refused at
its first statement. -/
def play : List Reply → Exchange α → Except IndexError α × List Call
  | _, .done result => (result, [])
  | replies, .execute statement next =>
    let reply := replies.headD .empty
    let call := Call.execute statement.sql
    match reply.refusal with
    | some reason => (.error (.refused reason statement.sql), [call])
    | none =>
      let (result, calls) := play (replies.drop 1) (next ⟨reply.rows, reply.effect⟩)
      (result, call :: calls)
  | replies, .transact statements next =>
    let reply := replies.headD .empty
    let sqls := statements.map Statement.sql
    match reply.refusal with
    | some reason => (.error (.refused reason (sqls.headD "")), [.transact sqls])
    | none =>
      let effects := reply.effects.getD (statements.map fun _ => .none)
      let (result, calls) := play (replies.drop 1) (next effects)
      (result, .transact sqls :: calls)

end Exchange

end SearchIndex.Database
