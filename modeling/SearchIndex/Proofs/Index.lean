import SearchIndex.Index
import SearchIndex.Proofs.Database.Server

/-!
Contract: what the operations on indexes send, and what their results tell.

Owns: `Server.stored`, the statement that a database gives for a table, with `Steady` and
`KeepsStatements` and `LeavesOthers`, what is taken for granted of these statements; `asks_load` and
`keeps_of_asks`, by which reading an index is asking and changes nothing that asking does not
change; `script_eq`, the statements that make the index of a valid definition; and `run_load` and
`run_install`, the results of reading and of making an index in terms of the statement given and of
the transaction sent.
-/

namespace SearchIndex

namespace Index

open Database

/-- The definition's link to its content table; where it has none, no statement uses the link. -/
def linkOf (definition : Definition) : Synchronization :=
  ⟨definition.contentTable.getD "", definition.name, definition.columns, definition.contentRowId⟩

/-- The statements that make the index of a valid definition, after those that make room for it. -/
def makeStatements (drops : List Statement) (definition : Definition) (options : CreateOptions) :
    List Statement :=
  drops ++ [.createIndex definition] ++
    (triggeredEvents definition options).map (.createTrigger (linkOf definition)) ++
    if isPopulated definition options then [.backfill (linkOf definition)] else []

end Index

namespace Database.Server

variable {σ : Type}

/-- The statement that a database gives for a table. -/
def stored (server : Server σ) (table : String) (state : σ) : Except IndexError (Option String) :=
  (server.run (Index.storedSql table) state).1

theorem stored_watched (server : Server σ) (table : String) (state : Watched σ) :
    server.watched.stored table state = server.stored table state.database :=
  congrArg Prod.fst (run_watched (Index.storedSql table) state)

/-- Asking for a statement changes none. -/
def Steady (server : Server σ) : Prop :=
  ∀ table other state, server.stored table (server.execute (.storedStatement other) state).2 =
    server.stored table state

theorem Steady.watched {server : Server σ} (steady : server.Steady) : server.watched.Steady := by
  intro table other state
  rw [stored_watched, stored_watched]
  exact steady table other state.database

/-- What is taken for granted of a database: asking changes no statement of an index; and a
transaction that makes an index leaves its statement, with or without semicolon, and the statements
of the other definitions as they were. -/
structure KeepsStatements (server : Server σ) (definitions : List Definition) : Prop where
  asking : ∀ definition ∈ definitions, ∀ table state,
    server.stored definition.name (server.execute (.storedStatement table) state).2 =
      server.stored definition.name state
  making : ∀ definition ∈ definitions, ∀ drops ∈ [[], Index.dropStatements definition.name],
    ∀ parts state effects after,
      server.transact (Index.makeStatements drops definition parts) state = (.ok effects, after) →
        ∃ sql, (sql = definition.render ∨ sql ++ ";" = definition.render) ∧
          server.stored definition.name after = .ok (some sql)
  others : ∀ definition ∈ definitions, ∀ drops ∈ [[], Index.dropStatements definition.name],
    ∀ parts state effects after,
      server.transact (Index.makeStatements drops definition parts) state = (.ok effects, after) →
        ∀ other ∈ definitions, definition.name ≠ other.name →
          server.stored other.name after = server.stored other.name state

/-- What is taken for granted where it does not matter what the statement of an index looks like:
asking changes none, and making an index changes none of the other definitions' tables. -/
structure LeavesOthers (server : Server σ) (definitions : List Definition) : Prop where
  asking : ∀ definition ∈ definitions, ∀ table state,
    server.stored definition.name (server.execute (.storedStatement table) state).2 =
      server.stored definition.name state
  others : ∀ definition ∈ definitions, ∀ drops ∈ [[], Index.dropStatements definition.name],
    ∀ parts state effects after,
      server.transact (Index.makeStatements drops definition parts) state = (.ok effects, after) →
        ∀ other ∈ definitions, definition.name ≠ other.name →
          server.stored other.name after = server.stored other.name state

theorem KeepsStatements.leavesOthers {server : Server σ} {definitions : List Definition}
    (keeps : server.KeepsStatements definitions) : server.LeavesOthers definitions :=
  ⟨keeps.asking, keeps.others⟩

end Database.Server

namespace Index

open Database

variable {σ α : Type} {server : Server σ} {state : σ} {index table : String}

/-! ### Questions -/

/-- Whether a statement asks for the statement of a table. -/
def IsQuestion (statement : Statement) : Prop := ∃ table, statement = .storedStatement table

/-- Whether an exchange does nothing but ask for the statements of tables. -/
def Asks (exchange : Exchange α) : Prop := exchange.Sends IsQuestion fun _ => False

theorem asks_storedSql (table : String) : Asks (storedSql table) :=
  ⟨⟨table, rfl⟩, fun _ => trivial⟩

theorem asks_load (index : String) : Asks (load index) := by
  refine Exchange.sends_bind (asks_storedSql index) fun sql => ?_
  cases sql with
  | none => trivial
  | some sql =>
      simp only
      split <;> trivial

/-- What is not changed by a question is not changed by asking. -/
theorem keeps_of_asks {property : σ → Prop}
    (asking : ∀ table state, property state →
      property (server.execute (.storedStatement table) state).2)
    (explain : IndexError → String) {exchange : Exchange α} (asks : Asks exchange) :
    Work.Keeps property (server.work explain exchange) := by
  intro state holds
  refine Server.keeps_run ?_ (fun _ nothing => nothing.elim) asks state holds
  rintro _ ⟨table, rfl⟩ state holds
  exact asking table state holds

/-! ### Reading -/

theorem run_storedSql (table : String) (state : σ) :
    server.run (storedSql table) state =
      (server.stored table state, (server.execute (.storedStatement table) state).2) := by
  refine Prod.ext rfl ?_
  change (server.run (.execute (.storedStatement table) _) state).2 = _
  rw [Server.run]
  cases server.execute (.storedStatement table) state with
  | mk result after => cases result <;> rfl

/-- The definition that a statement tells, or what is wrong with it. -/
def recover (index sql : String) : Except IndexError Definition.Recovered :=
  match Definition.Recovered.ofStatement? sql with
  | some recovered => .ok recovered
  | none => .error (.notAnIndex index)

theorem run_load (index : String) (state : σ) :
    server.run (load index) state =
      ((server.stored index state).bind fun sql =>
        match sql with
        | some sql => recover index sql
        | none => .error (.notFound index),
        (server.execute (.storedStatement index) state).2) := by
  unfold load
  rw [Server.run_bind, run_storedSql]
  cases server.stored index state with
  | error error => rfl
  | ok sql =>
      cases sql with
      | none => rfl
      | some sql =>
          simp only [Except.bind, recover]
          cases Definition.Recovered.ofStatement? sql <;> rfl

/-! ### Making -/

section Statements

variable {drops : List Statement} {definition : Definition} {options : CreateOptions}
  {statement : Statement}

theorem mem_dropStatements : statement ∈ dropStatements index ↔
    (∃ event, statement = .dropTrigger index event) ∨ statement = .dropIndex index := by
  rw [dropStatements, dropTriggers, List.mem_append, List.mem_map, List.mem_singleton]
  refine or_congr_left ⟨fun ⟨event, _, same⟩ => ⟨event, same.symm⟩, fun ⟨event, same⟩ => ?_⟩
  exact ⟨event, by cases event <;> decide, same.symm⟩

/-- What stands in the transaction that makes an index. -/
theorem mem_makeStatements (member : statement ∈ makeStatements drops definition options) :
    statement ∈ drops ∨ statement = .createIndex definition ∨
      (∃ event, statement = .createTrigger (linkOf definition) event) ∨
      statement = .backfill (linkOf definition) := by
  rw [makeStatements, List.mem_append, List.mem_append, List.mem_append, List.mem_singleton,
    List.mem_map] at member
  rcases member with ((dropped | created) | ⟨event, _, same⟩) | filled
  · exact .inl dropped
  · exact .inr (.inl created)
  · exact .inr (.inr (.inl ⟨event, same.symm⟩))
  · split at filled
    · exact .inr (.inr (.inr (List.mem_singleton.mp filled)))
    · contradiction

end Statements

theorem ofDefinition_eq {definition : Definition} (accepted : definition.validate = .ok ())
    (external : definition.contentTable.isSome = true) :
    Synchronization.ofDefinition definition = .ok (linkOf definition) := by
  obtain ⟨source, given⟩ := Option.isSome_iff_exists.mp external
  rw [Synchronization.ofDefinition, accepted, linkOf, given]
  rfl

/-- Of a valid definition all statements can be built. -/
theorem script_eq {definition : Definition} (accepted : definition.validate = .ok ())
    (drops : List Statement) (options : CreateOptions) :
    script drops definition options = .ok (makeStatements drops definition options) := by
  have triggers : triggerStatements definition options =
      .ok ((triggeredEvents definition options).map (.createTrigger (linkOf definition))) := by
    unfold triggerStatements triggeredEvents
    split
    · next wanted => rw [ofDefinition_eq accepted (Bool.and_eq_true_iff.mp wanted).1]; rfl
    · rfl
  have backfill : backfillStatements definition options =
      .ok (if isPopulated definition options then [.backfill (linkOf definition)] else []) := by
    unfold backfillStatements
    split
    · next wanted => rw [ofDefinition_eq accepted (Bool.and_eq_true_iff.mp wanted).1]; rfl
    · rfl
  rw [script, triggers, backfill, Definition.statement, accepted]
  rfl

theorem run_install {definition : Definition} (accepted : definition.validate = .ok ())
    (drops : List Statement) (options : CreateOptions) (state : σ) :
    server.run (install drops definition options) state =
      ((server.transact (makeStatements drops definition options) state).1.map
          (report definition options),
        (server.transact (makeStatements drops definition options) state).2) := by
  unfold install
  rw [script_eq accepted]
  change server.run (.transact _ _ >>= _) state = _
  rw [Server.run_bind, Server.run]
  cases server.transact (makeStatements drops definition options) state with
  | mk result after => cases result <;> rfl

/-! ### Dropping -/

/-- What is sent to drop an index. -/
def dropping (index : String) (triggers : Bool) : List Statement :=
  (if triggers then dropTriggers index else []) ++ [.dropIndex index]

theorem run_drop (index : String) (triggers : Bool) (state : σ) :
    server.run (drop index triggers) state =
      ((server.transact (dropping index triggers) state).1.map fun _ => (),
        (server.transact (dropping index triggers) state).2) := by
  change server.run (.transact (dropping index triggers) _ >>= _) state = _
  rw [Server.run_bind, Server.run]
  cases server.transact (dropping index triggers) state with
  | mk result after => cases result <;> rfl

theorem dropIndex_mem_dropping {triggers : Bool}
    (member : Statement.dropIndex table ∈ dropping index triggers) : table = index := by
  rcases List.mem_append.mp member with triggered | dropped
  · split at triggered
    · obtain ⟨event, _, same⟩ := List.mem_map.mp triggered
      contradiction
    · contradiction
  · exact Statement.dropIndex.inj (List.mem_singleton.mp dropped)

end Index

end SearchIndex
