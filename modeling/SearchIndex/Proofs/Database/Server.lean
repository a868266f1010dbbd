import SearchIndex.Database.Server

/-!
Contract: work on open databases, step by step.

Owns: `Work.Keeps` and `Work.Follows`, by which a property of the state and the step from one kind
of state to another pass through work; `Exchange.Sends`, what an exchange may send, and `keeps_run`,
by which that alone decides what it does to a database; `Server.watched`, a database that also
keeps what it is sent and answers as before; and `Server.Atomic`, that a question or a refused
transaction leaves a database as it is.
-/

namespace SearchIndex.Database

variable {σ τ α β : Type}

/-! ### Work -/

namespace Work

theorem bind_apply (work : Work σ α) (next : α → Work σ β) (state : σ) :
    (work >>= next) state =
      match work state with
      | (.ok value, state) => next value state
      | (.error message, state) => (.error message, state) := rfl

theorem bind_of_ok {work : Work σ α} {state between : σ} {value : α}
    (done : work state = (.ok value, between)) (next : α → Work σ β) :
    (work >>= next) state = next value between := by
  rw [bind_apply, done]

theorem bind_of_error {work : Work σ α} {state between : σ} {message : String}
    (failed : work state = (.error message, between)) (next : α → Work σ β) :
    (work >>= next) state = (.error message, between) := by
  rw [bind_apply, failed]

theorem bind_pure_fst (work : Work σ α) (f : α → β) (state : σ) :
    ((work >>= fun value => pure (f value)) state).1 = (work state).1.map f := by
  rw [bind_apply]
  cases work state with
  | mk result after => cases result <;> rfl

/-- Work leaves a property of the state as it is, however it ends. -/
def Keeps (property : σ → Prop) (work : Work σ α) : Prop :=
  ∀ state, property state → property (work state).2

section Keeps

variable {property : σ → Prop}

theorem keeps_pure (value : α) : Keeps property (pure value : Work σ α) :=
  fun _ holds => holds

theorem keeps_bind {work : Work σ α} {next : α → Work σ β} (first : Keeps property work)
    (others : ∀ value, Keeps property (next value)) : Keeps property (work >>= next) := by
  intro state holds
  have between := first state holds
  rw [bind_apply]
  split
  · next value after done => exact others value after (by rw [done] at between; exact between)
  · next message after failed => rw [failed] at between; exact between

end Keeps

/-- Work on one kind of state does what other work does on another kind. -/
def Follows (view : τ → σ) (work : Work τ α) (model : Work σ α) : Prop :=
  ∀ state, ((work state).1, view (work state).2) = model (view state)

section Follows

variable {view : τ → σ}

theorem follows_pure (value : α) : Follows view (pure value) (pure value : Work σ α) :=
  fun _ => rfl

theorem follows_ofResult (result : Except String α) :
    Follows view (ofResult result) (ofResult result) :=
  fun _ => rfl

theorem follows_bind {work : Work τ α} {model : Work σ α} {next : α → Work τ β}
    {modelNext : α → Work σ β} (first : Follows view work model)
    (others : ∀ value, Follows view (next value) (modelNext value)) :
    Follows view (work >>= next) (model >>= modelNext) := by
  intro state
  rw [bind_apply, bind_apply, ← first state]
  split
  · next value after done =>
      rw [done]
      exact others value after
  · next message after failed =>
      rw [failed]

end Follows

end Work

/-! ### What an exchange sends -/

namespace Exchange

variable {alone : Statement → Prop} {together : List Statement → Prop}

/-- Whether an exchange sends, whatever comes back, only some statements alone and only some
transactions. -/
def Sends (alone : Statement → Prop) (together : List Statement → Prop) : Exchange α → Prop
  | .done _ => True
  | .execute statement next => alone statement ∧ ∀ output, Sends alone together (next output)
  | .transact statements next =>
    together statements ∧ ∀ effects, Sends alone together (next effects)

theorem Sends.mono {others : Statement → Prop} {exchange : Exchange α}
    (sends : Sends alone together exchange)
    (included : ∀ statement, alone statement → others statement) :
    Sends others together exchange := by
  induction exchange with
  | done result => trivial
  | execute statement rest inductionHypothesis =>
      exact ⟨included statement sends.1, fun output => inductionHypothesis output (sends.2 output)⟩
  | transact statements rest inductionHypothesis =>
      exact ⟨sends.1, fun effects => inductionHypothesis effects (sends.2 effects)⟩

theorem sends_bind {exchange : Exchange α} {next : α → Exchange β}
    (first : Sends alone together exchange) (others : ∀ value, Sends alone together (next value)) :
    Sends alone together (exchange >>= next) := by
  induction exchange with
  | done result =>
      cases result with
      | ok value => exact others value
      | error error => trivial
  | execute statement rest inductionHypothesis =>
      exact ⟨first.1, fun output => inductionHypothesis output (first.2 output)⟩
  | transact statements rest inductionHypothesis =>
      exact ⟨first.1, fun effects => inductionHypothesis effects (first.2 effects)⟩

end Exchange

namespace Server

variable {server : Server σ}

theorem run_bind (exchange : Exchange α) (next : α → Exchange β) (state : σ) :
    server.run (exchange >>= next) state =
      match server.run exchange state with
      | (.ok value, state) => server.run (next value) state
      | (.error error, state) => (.error error, state) := by
  induction exchange generalizing state with
  | done result => cases result <;> rfl
  | execute statement rest inductionHypothesis =>
      change server.run (.execute statement fun output => rest output >>= next) state = _
      rw [run, run]
      split
      · exact inductionHypothesis _ _
      · rfl
  | transact statements rest inductionHypothesis =>
      change server.run (.transact statements fun effects => rest effects >>= next) state = _
      rw [run, run]
      split
      · exact inductionHypothesis _ _
      · rfl

/-- What an exchange sends decides which properties of a database it leaves as they are. -/
theorem keeps_run {property : σ → Prop} {alone : Statement → Prop}
    {together : List Statement → Prop}
    (executes : ∀ statement, alone statement → ∀ state, property state →
      property (server.execute statement state).2)
    (transacts : ∀ statements, together statements → ∀ state, property state →
      property (server.transact statements state).2)
    {exchange : Exchange α} (sends : exchange.Sends alone together) (state : σ)
    (holds : property state) : property (server.run exchange state).2 := by
  induction exchange generalizing state with
  | done result => exact holds
  | execute statement rest inductionHypothesis =>
      have after := executes statement sends.1 state holds
      rw [run]
      split
      · next output next answered =>
          rw [answered] at after
          exact inductionHypothesis output (sends.2 output) next after
      · next reason next refused =>
          rw [refused] at after
          exact after
  | transact statements rest inductionHypothesis =>
      have after := transacts statements sends.1 state holds
      rw [run]
      split
      · next effects next committed =>
          rw [committed] at after
          exact inductionHypothesis effects (sends.2 effects) next after
      · next error next refused =>
          rw [refused] at after
          exact after

/-- What is taken for granted where nothing may change: asking leaves a database as it was, and so
does a transaction that is refused. -/
structure Atomic (server : Server σ) : Prop where
  asking : ∀ table state, (server.execute (.storedStatement table) state).2 = state
  refusing : ∀ statements state error after,
    server.transact statements state = (.error error, after) → after = state

theorem work_apply (explain : IndexError → String) (exchange : Exchange α) (state : σ) :
    server.work explain exchange state =
      ((server.run exchange state).1.mapError explain, (server.run exchange state).2) := rfl

end Server

/-! ### Databases that keep what they are sent -/

/-- A transaction that was sent to a database. -/
structure Transaction (σ : Type) where
  /-- The database before. -/
  before : σ
  statements : List Statement
  committed : Bool

/-- A database with what it was sent. -/
structure Watched (σ : Type) where
  database : σ
  /-- The statements that were sent alone. -/
  alone : List Statement
  transactions : List (Transaction σ)

/-- A database that was sent nothing yet. -/
def Watched.start (database : σ) : Watched σ := ⟨database, [], []⟩

/-- Answers as a database does, and keeps what was sent. -/
def Server.watched (server : Server σ) : Server (Watched σ) where
  execute statement state :=
    let (result, database) := server.execute statement state.database
    (result, { state with database, alone := state.alone ++ [statement] })
  transact statements state :=
    let (result, database) := server.transact statements state.database
    (result, { state with
      database
      transactions := state.transactions ++ [⟨state.database, statements, result.isOk⟩] })

namespace Server

variable {server : Server σ}

theorem execute_watched (statement : Statement) (state : Watched σ) :
    server.watched.execute statement state =
      ((server.execute statement state.database).1,
        ⟨(server.execute statement state.database).2, state.alone ++ [statement],
          state.transactions⟩) := rfl

theorem transact_watched (statements : List Statement) (state : Watched σ) :
    server.watched.transact statements state =
      ((server.transact statements state.database).1,
        ⟨(server.transact statements state.database).2, state.alone,
          state.transactions ++ [⟨state.database, statements,
            (server.transact statements state.database).1.isOk⟩]⟩) := rfl

theorem sent_of_transact {statements : List Statement} {state after : Watched σ}
    {result : Except IndexError (List Effect)}
    (sent : server.watched.transact statements state = (result, after)) :
    after.alone = state.alone ∧ after.transactions =
      state.transactions ++ [⟨state.database, statements, result.isOk⟩] := by
  rw [transact_watched] at sent
  obtain ⟨rfl, rfl⟩ := Prod.mk.inj sent
  exact ⟨rfl, rfl⟩

/-- A database answers the same whether it is watched or not. -/
theorem run_watched (exchange : Exchange α) (state : Watched σ) :
    ((server.watched.run exchange state).1, (server.watched.run exchange state).2.database) =
      server.run exchange state.database := by
  induction exchange generalizing state with
  | done result => rfl
  | execute statement rest inductionHypothesis =>
      rw [run, run, execute_watched]
      cases server.execute statement state.database with
      | mk result database =>
          cases result with
          | ok output => exact inductionHypothesis output _
          | error reason => rfl
  | transact statements rest inductionHypothesis =>
      rw [run, run, transact_watched]
      cases server.transact statements state.database with
      | mk result database =>
          cases result with
          | ok effects => exact inductionHypothesis effects _
          | error error => rfl

theorem follows_work_watched (explain : IndexError → String) (exchange : Exchange α) :
    Work.Follows Watched.database (server.watched.work explain exchange)
      (server.work explain exchange) := by
  intro state
  rw [work_apply, work_apply, ← run_watched]

end Server

end SearchIndex.Database
