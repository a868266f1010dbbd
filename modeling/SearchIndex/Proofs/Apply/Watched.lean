import SearchIndex.Proofs.Apply.Step

/-!
Contract: a run goes the same way whether its database is watched or not, and what it sends is seen.

Owns: `Progress.unwatched`, the progress of a watched run without what was sent, and
`steps_watched`; and `sent_of_stepped`, by which a step sends only questions and, if it makes an
index, one transaction. Each part of a step follows the same part over the database itself, so that
what is proved of a watched run, what it sends included, is proved of the run.
-/

namespace SearchIndex.Apply

open Database

variable {σ : Type} (server : Server σ)

theorem isPresent_watched (table : String) :
    Work.Follows Watched.database (isPresent server.watched table) (isPresent server table) :=
  Work.follows_bind (Server.follows_work_watched _ _) fun _ => Work.follows_pure _

theorem matchesDatabase_watched (definition : Definition) :
    Work.Follows Watched.database (matchesDatabase server.watched definition)
      (matchesDatabase server definition) :=
  Work.follows_bind (Server.follows_work_watched _ _) fun _ => Work.follows_pure _

theorem plan_watched (manifest : Option Manifest) (definition : Definition) (statement : String) :
    Work.Follows Watched.database (plan server.watched manifest definition statement)
      (plan server manifest definition statement) := by
  refine Work.follows_bind (isPresent_watched server definition.name) fun present => ?_
  cases present with
  | false => exact Work.follows_pure _
  | true =>
      simp only [Bool.not_true, Bool.false_eq_true, if_false]
      split
      · exact Work.follows_pure _
      · exact Work.follows_bind (matchesDatabase_watched server definition) fun _ =>
          Work.follows_pure _

theorem decision_watched (force : Bool) (manifest : Option Manifest) (definition : Definition)
    (statement : String) :
    Work.Follows Watched.database (decision server.watched force manifest definition statement)
      (decision server force manifest definition statement) := by
  cases force with
  | false => exact plan_watched server manifest definition statement
  | true =>
      refine Work.follows_bind (isPresent_watched server definition.name) fun present => ?_
      cases present with
      | false => exact plan_watched server manifest definition statement
      | true => exact Work.follows_pure _

/-- The progress of a watched run without what was sent. -/
def Progress.unwatched (progress : Progress (Watched σ)) : Progress σ :=
  { progress with database := progress.database.database }

variable {server} {α : Type}

theorem follows_onDatabase {work : Work (Watched σ) α} {model : Work σ α}
    (follows : Work.Follows Watched.database work model) :
    Work.Follows Progress.unwatched (onDatabase work) (onDatabase model) := by
  intro progress
  have database := follows progress.database
  simp only [onDatabase, Progress.unwatched, ← database]

variable (server)

theorem perform_watched (options : Options) (action : Action) (definition : Definition) :
    Work.Follows Progress.unwatched (perform server.watched options action definition)
      (perform server options action definition) := by
  have makes (explain : IndexError → String) (line : Index.CreateReport → String)
      (exchange : Exchange Index.CreateReport) :
      Work.Follows Progress.unwatched
        (onDatabase (server.watched.work explain exchange) >>= fun report =>
          tell (line report) >>= fun _ => pure (!report.triggers.isEmpty))
        (onDatabase (server.work explain exchange) >>= fun report =>
          tell (line report) >>= fun _ => pure (!report.triggers.isEmpty)) :=
    Work.follows_bind (follows_onDatabase (Server.follows_work_watched explain exchange))
      fun _ => fun _ => rfl
  cases action with
  | unchanged => exact fun _ => rfl
  | create => exact makes _ _ _
  | recreate => exact makes _ _ _

theorem carryOut_watched (options : Options) (entry : DefinitionEntry) (statement : String)
    (action : Action) :
    Work.Follows Progress.unwatched (carryOut server.watched options entry statement action)
      (carryOut server options entry statement action) := by
  unfold carryOut
  split
  · exact fun _ => rfl
  · exact Work.follows_bind (perform_watched server options action entry.definition)
      fun _ => fun _ => rfl

theorem step_watched (options : Options) (entry : DefinitionEntry) :
    Work.Follows Progress.unwatched (step server.watched options entry)
      (step server options entry) := by
  refine Work.follows_bind (Work.follows_ofResult _) fun statement => ?_
  intro before
  -- What is read of the progress is its manifest, which is the same on both sides.
  exact Work.follows_bind
    (follows_onDatabase
      (decision_watched server options.force before.manifest entry.definition statement))
    (fun action => Work.follows_bind (fun _ => rfl)
      fun _ => carryOut_watched server options entry statement action) before

theorem steps_watched (options : Options) (entries : List DefinitionEntry) :
    Work.Follows Progress.unwatched (steps server.watched options entries)
      (steps server options entries) := by
  induction entries with
  | nil => exact Work.follows_pure ()
  | cons entry rest inductionHypothesis =>
      exact Work.follows_bind (step_watched server options entry) fun _ => inductionHypothesis

/-- A watched run ends as the run does, and with the same decisions. -/
theorem decided_watched (options : Options) (entries : List DefinitionEntry)
    (before : Progress (Watched σ)) :
    (steps server.watched options entries before).1 =
        (steps server options entries before.unwatched).1 ∧
      (steps server.watched options entries before).2.decided =
        (steps server options entries before.unwatched).2.decided := by
  rw [← steps_watched server options entries before]
  exact ⟨rfl, rfl⟩

/-! ### What a step sends -/

section Sent

variable {server} {options : Options} {entry : DefinitionEntry}
  {before after : Progress (Watched σ)} {result : Except String Unit}

/-- A database was sent no more than questions. -/
def Questioned (before after : Watched σ) : Prop :=
  after.transactions = before.transactions ∧
    ∀ statement ∈ after.alone, statement ∈ before.alone ∨ Index.IsQuestion statement

theorem Questioned.trans {first second third : Watched σ} (before : Questioned first second)
    (after : Questioned second third) : Questioned first third := by
  refine ⟨after.1.trans before.1, fun statement sent => ?_⟩
  rcases after.2 statement sent with earlier | question
  · exact before.2 statement earlier
  · exact .inr question

theorem questioned_asking (server : Server σ) {first state : Watched σ} (table : String)
    (questioned : Questioned first state) :
    Questioned first (server.watched.execute (.storedStatement table) state).2 := by
  refine ⟨questioned.1, ?_⟩
  rw [Server.execute_watched, List.forall_mem_append, List.forall_mem_singleton]
  exact ⟨questioned.2, .inr ⟨table, rfl⟩⟩

theorem questioned_of_decision {force : Bool} {manifest : Option Manifest}
    {definition : Definition} {statement : String} {decided : Except String Action}
    {state next : Watched σ}
    (found : decision server.watched force manifest definition statement state = (decided, next)) :
    Questioned state next := by
  have start : Questioned state state := ⟨rfl, fun _ member => .inl member⟩
  have kept := keeps_decision (fun table _ => questioned_asking server table) force manifest
    definition statement state start
  rw [found] at kept
  exact kept

/-- Beside questions a step sends nothing, or the transaction that makes its index as decided. -/
theorem sent_of_stepped
    (stepped : Stepped server.watched options entry before (result, after)) :
    Questioned before.database after.database ∨
      ∃ action state, action ≠ Action.unchanged ∧
        decision server.watched options.force before.manifest entry.definition
          entry.definition.render before.database = (.ok action, state) ∧
        after.database.alone = state.alone ∧
        after.database.transactions = state.transactions ++ [⟨state.database,
          Index.makeStatements (action.drops entry.definition.name) entry.definition options.parts,
          result.isOk⟩] := by
  cases stepped with
  | invalid => exact .inl ⟨rfl, fun _ member => .inl member⟩
  | undecided _ failed => exact .inl (questioned_of_decision failed)
  | planned _ found => exact .inl (questioned_of_decision found)
  | left _ found => exact .inl (questioned_of_decision found)
  | @refused action state after error _ found _ makes failed =>
      obtain ⟨alone, transactions⟩ := Server.sent_of_transact failed
      exact .inr ⟨action, state, makes, found, alone, transactions⟩
  | @made action state after effects _ found _ makes committed =>
      obtain ⟨alone, transactions⟩ := Server.sent_of_transact committed
      exact .inr ⟨action, state, makes, found, alone, transactions⟩

end Sent

end SearchIndex.Apply
