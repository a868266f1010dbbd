import SearchIndex.Database.Exchange

/-!
Contract: open databases, and work on them.

A server answers single statements and whole transactions, and may be in another state after each
of them, refused ones included. `Server.run` leads an exchange with it to the end. Work is what a
command does with a state, one step after another; the first message ends it, and the state stays
as it is then.
-/

namespace SearchIndex.Database

/-- Work on a state that ends with a value or with a message. -/
def Work (σ α : Type) : Type := σ → Except String α × σ

namespace Work

variable {σ τ α β : Type}

/-- Goes on with other work after the end of this one. -/
def andThen (work : Work σ α) (next : α → Work σ β) : Work σ β := fun state =>
  match work state with
  | (.ok value, state) => next value state
  | (.error message, state) => (.error message, state)

instance : Monad (Work σ) where
  pure value := fun state => (.ok value, state)
  bind := andThen

/-- The state as it is. -/
def current : Work σ σ := fun state => (.ok state, state)

def update (change : σ → σ) : Work σ Unit := fun state => (.ok (), change state)

/-- A value that was found without the state. -/
def ofResult (result : Except String α) : Work σ α := fun state => (result, state)

end Work

/-- How a database answers. What it cannot answer ends with an error of its own. -/
structure Server (σ : Type) where
  execute : Statement → σ → Except IndexError Output × σ
  transact : List Statement → σ → Except IndexError (List Effect) × σ

namespace Server

variable {σ α : Type}

/-- Leads an exchange with a database to its end. -/
def run (server : Server σ) : Exchange α → σ → Except IndexError α × σ
  | .done result, state => (result, state)
  | .execute statement next, state =>
    match server.execute statement state with
    | (.ok output, state) => run server (next output) state
    | (.error error, state) => (.error error, state)
  | .transact statements next, state =>
    match server.transact statements state with
    | (.ok effects, state) => run server (next effects) state
    | (.error error, state) => (.error error, state)

/-- An exchange as work. Its errors are explained by messages. -/
def work (server : Server σ) (explain : IndexError → String) (exchange : Exchange α) : Work σ α :=
  fun state =>
    let (result, state) := server.run exchange state
    (result.mapError explain, state)

end Server

end SearchIndex.Database
