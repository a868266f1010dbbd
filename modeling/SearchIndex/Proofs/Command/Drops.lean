import SearchIndex.Proofs.Command.Apply
import SearchIndex.Proofs.Database.Catalog

/-!
Contract: which tables the commands drop.

Owns: `DropsIndexes`, that every table that was dropped was there and was an index, but for some
names; `Session`, commands over one database, with the names whose tables they drop without looking
at them; and `session_drops_indexes`.

Reading an index back, maintaining it and comparing it with its definition look at what it is. The
commands that drop do not: a name on the command line, a forced run and a record with another
checksum drop whatever stands under the name, as in `dropped_unchecked`.
-/

namespace SearchIndex.Command

open Database

variable {σ : Type}

/-- Whether the statement of a table is that of an index. -/
def IsIndex (sql : String) : Prop := (Definition.Recovered.ofStatement? sql).isSome = true

/-- What was dropped was there, and it was an index unless its name is one of those given. -/
structure DropsIndexes (server : Server σ) (unchecked : List String) (state : Watched σ) :
    Prop where
  alone : ∀ statement ∈ state.alone, ∀ index, statement ≠ .dropIndex index
  together : ∀ transaction ∈ state.transactions, ∀ index,
    Statement.dropIndex index ∈ transaction.statements →
      ∃ sql, server.stored index transaction.before = .ok (some sql) ∧
        (IsIndex sql ∨ index ∈ unchecked)

/-- The names of the definitions whose tables a run recreates without looking at them: all of a
forced run, and those whose record has another checksum. -/
def uncheckedBy (force : Bool) (manifest : Option Manifest) (definitions : List Definition) :
    List String :=
  (definitions.filter fun definition => force ||
    Apply.recordedAction? manifest definition.name definition.render == some .recreate).map
      Definition.name

section Unchecked

variable {server : Server σ} {unchecked more : List String} {state after : Watched σ}

theorem DropsIndexes.mono (drops : DropsIndexes server unchecked state)
    (included : unchecked ⊆ more) : DropsIndexes server more state where
  alone := drops.alone
  together := fun transaction sent index member => by
    obtain ⟨sql, stored, reason⟩ := drops.together transaction sent index member
    exact ⟨sql, stored, reason.imp_right fun name => included name⟩

theorem dropsIndexes_start (database : σ) : DropsIndexes server [] (.start database) where
  alone := fun _ none => (List.not_mem_nil none).elim
  together := fun _ none => (List.not_mem_nil none).elim

theorem DropsIndexes.of_questioned (drops : DropsIndexes server unchecked state)
    (questioned : Apply.Questioned state after) : DropsIndexes server unchecked after where
  alone := fun statement sent index => by
    rcases questioned.2 statement sent with before | ⟨table, rfl⟩
    · exact drops.alone statement before index
    · exact Statement.noConfusion
  together := questioned.1 ▸ drops.together

/-- A transaction was sent whose drops are justified. -/
theorem DropsIndexes.of_transact (drops : DropsIndexes server unchecked state)
    {statements : List Statement} {committed : Bool} (alone : after.alone = state.alone)
    (transactions : after.transactions =
      state.transactions ++ [⟨state.database, statements, committed⟩])
    (justified : ∀ index, Statement.dropIndex index ∈ statements →
      ∃ sql, server.stored index state.database = .ok (some sql) ∧
        (IsIndex sql ∨ index ∈ unchecked)) : DropsIndexes server unchecked after where
  alone := alone ▸ drops.alone
  together := fun transaction sent => by
    rw [transactions] at sent
    rcases List.mem_append.mp sent with before | now
    · exact drops.together transaction before
    · rw [List.mem_singleton.mp now]
      exact justified

end Unchecked

/-! ### Runs over definitions -/

section Apply

/-- An index is recreated only where it is there; and unless the run is forced or its record has
another checksum, its statement was read back. -/
theorem exists_of_recreate {force : Bool} {manifest : Option Manifest} {definition : Definition}
    {statement : String} {answer : Except IndexError (Option String)}
    (recreates : Apply.decided force manifest definition statement answer = .ok .recreate) :
    ∃ sql, answer = .ok (some sql) ∧ (IsIndex sql ∨ force = true ∨
      Apply.recordedAction? manifest definition.name statement = some .recreate) := by
  match answer with
  | .error _ => contradiction
  | .ok none =>
      simp only [Apply.decided, Except.ok.injEq] at recreates
      contradiction
  | .ok (some sql) =>
      refine ⟨sql, rfl, ?_⟩
      cases force with
      | true => exact .inr (.inl rfl)
      | false =>
          simp only [Apply.decided, Bool.false_eq_true, if_false] at recreates
          split at recreates
          · next action recorded =>
              rw [Except.ok.inj recreates] at recorded
              exact .inr (.inr recorded)
          · left
            cases recovered : Definition.Recovered.ofStatement? sql with
            | none =>
                simp only [Index.recover, recovered] at recreates
                contradiction
            | some facts =>
                rw [IsIndex, recovered]
                rfl

variable {server : Server σ}
  (steady : server.Steady)
  {unchecked : List String} {options : Apply.Options}

include steady

/-- A step drops a table that is there. If it did not look at it, its name is one of those given. -/
theorem drops_step {entry : DefinitionEntry} {before after : Apply.Progress (Watched σ)}
    {result : Except String Unit}
    (named : (options.force = true ∨ Apply.recordedAction? before.manifest entry.definition.name
      entry.definition.render = some .recreate) → entry.definition.name ∈ unchecked)
    (stepped : Apply.Stepped server.watched options entry before (result, after))
    (drops : DropsIndexes server unchecked before.database) :
    DropsIndexes server unchecked after.database := by
  rcases Apply.sent_of_stepped stepped with
    questioned | ⟨action, state, makes, found, alone, transactions⟩
  · exact drops.of_questioned questioned
  · have asked := drops.of_questioned (Apply.questioned_of_decision found)
    refine asked.of_transact alone transactions fun index member => ?_
    obtain ⟨rfl, rfl⟩ := Apply.dropIndex_of_mem member
    -- The transaction drops because it was decided to recreate, and the decision saw the statement.
    have recreates : (Apply.decision server.watched options.force before.manifest
        entry.definition entry.definition.render before.database).1 = _ :=
      Apply.decision_eq (steady.watched entry.definition.name) ..
    rw [found, ← Apply.stored_of_decision (steady.watched entry.definition.name) found,
      Server.stored_watched] at recreates
    obtain ⟨sql, stored, reason⟩ := exists_of_recreate recreates.symm
    exact ⟨sql, stored, reason.imp_right named⟩

/-- A run before the definitions that are left: those that it may recreate without looking are among
the names given. -/
structure Dropping (server : Server σ) (options : Apply.Options) (unchecked : List String)
    (rest : List DefinitionEntry) (progress : Apply.Progress (Watched σ)) : Prop where
  distinct : (rest.map fun entry => entry.definition.name).Nodup
  named : ∀ entry ∈ rest, (options.force = true ∨ Apply.recordedAction? progress.manifest
    entry.definition.name entry.definition.render = some .recreate) →
      entry.definition.name ∈ unchecked
  drops : DropsIndexes server unchecked progress.database

theorem dropping_step {entry : DefinitionEntry} {rest : List DefinitionEntry}
    {before after : Apply.Progress (Watched σ)}
    (dropping : Dropping server options unchecked (entry :: rest) before)
    (success : Apply.step server.watched options entry before = (.ok (), after)) :
    Dropping server options unchecked rest after := by
  have stepped := Apply.stepped_of_step success
  have distinct := dropping.distinct
  rw [List.map_cons, List.nodup_cons] at distinct
  refine ⟨distinct.2, fun later member reason => ?_,
    drops_step steady (dropping.named entry List.mem_cons_self) stepped dropping.drops⟩
  have different : entry.definition.name ≠ later.definition.name := fun same =>
    distinct.1 (same ▸ List.mem_map_of_mem member)
  rw [stepped.recordedAction?_eq different] at reason
  exact dropping.named later (List.mem_cons_of_mem entry member) reason

theorem drops_steps {entries : List DefinitionEntry} {before : Apply.Progress (Watched σ)}
    (dropping : Dropping server options unchecked entries before) :
    DropsIndexes server unchecked
      (Apply.steps server.watched options entries before).2.database := by
  have run := Apply.steps_induction server.watched options
    (Dropping server options unchecked)
    (fun _ _ _ _ dropping success => dropping_step steady dropping success) entries dropping
  rcases ended : Apply.steps server.watched options entries before with ⟨result, after⟩
  rw [ended] at run
  cases result with
  | ok _ => exact run.drops
  | error message =>
      obtain ⟨entry, rest, between, dropping, failed⟩ := run
      exact drops_step steady (dropping.named entry List.mem_cons_self)
        (Apply.stepped_of_step failed) dropping.drops

/-- What a run over definitions drops is an index that is there, unless it is forced or a record has
another checksum. -/
theorem drops_applyOpened {arguments : ApplyArguments} {settings : Settings} {set : DefinitionSet}
    {now : String} {files : FileTree} {state : Watched σ}
    (named : ∀ manifest, startManifest files arguments.manifest now = .ok manifest →
      uncheckedBy arguments.force manifest set.definitions ⊆ unchecked)
    (drops : DropsIndexes server unchecked state) :
    DropsIndexes server unchecked
      (applyOpened server.watched arguments settings set now files state).progress.database := by
  cases started : startManifest files arguments.manifest now with
  | error reason =>
      rw [applyOpened_of_error started]
      exact drops
  | ok manifest =>
      have dropping : Dropping server (applyOptions arguments settings now) unchecked
          set.entries.values (.start state manifest) := by
        refine ⟨set.nodup_names, fun entry member reason => named manifest started ?_, drops⟩
        refine List.mem_map_of_mem (List.mem_filter.mpr ⟨List.mem_map_of_mem member, ?_⟩)
        simpa [applyOptions, Apply.Progress.start] using reason
      have after := drops_steps steady dropping
      rcases run : Apply.steps server.watched (applyOptions arguments settings now)
        set.entries.values (.start state manifest) with ⟨result, progress⟩
      rw [run] at after
      rw [applyOpened_of_steps started run]
      cases result with
      | ok _ => exact after
      | error message => exact after

end Apply

/-! ### Commands on single indexes -/

section Single

variable {server : Server σ}
  (steady : server.Steady)
  {unchecked : List String} {state : Watched σ}

/-- Maintaining an index drops nothing. -/
theorem drops_maintain (index : String) (operation : Maintenance)
    (drops : DropsIndexes server unchecked state) :
    DropsIndexes server unchecked
      (server.watched.run (Index.maintain index operation) state).2 := by
  have sends : (Index.maintain index operation).Sends
      (fun statement => ∀ table, statement ≠ .dropIndex table) fun _ => False := by
    refine Exchange.sends_bind ((Index.asks_load index).mono ?_) fun _ =>
      ⟨fun _ => Statement.noConfusion, fun _ => trivial⟩
    rintro _ ⟨table, rfl⟩ _
    exact Statement.noConfusion
  refine Server.keeps_run (fun statement harmless before drops => ?_)
    (fun _ nothing => nothing.elim) sends state drops
  refine ⟨?_, drops.together⟩
  rw [Server.execute_watched, List.forall_mem_append, List.forall_mem_singleton]
  exact ⟨drops.alone, harmless⟩

include steady

theorem drops_dropPresent {index : String} (keepTriggers : Bool) (named : index ∈ unchecked)
    (drops : DropsIndexes server unchecked state) :
    DropsIndexes server unchecked (dropPresent server.watched index keepTriggers state).2 := by
  have asked := drops.of_questioned
    (Apply.questioned_asking server index ⟨rfl, fun _ member => .inl member⟩)
  have present : Apply.isPresent server.watched index state = _ :=
    Apply.isPresent_apply index state
  cases found : server.watched.stored index state with
  | error error =>
      rw [found] at present
      rw [dropPresent, Work.bind_of_error present]
      exact asked
  | ok stored =>
      rw [found] at present
      rw [dropPresent, Work.bind_of_ok present]
      cases stored with
      | none => exact asked
      | some sql =>
          rw [← steady.watched index index state, Server.stored_watched] at found
          change DropsIndexes server unchecked
            (server.watched.work _ (Index.drop index !keepTriggers) _).2
          rw [Server.work_apply, Index.run_drop]
          refine asked.of_transact rfl rfl fun table member => ?_
          rw [Index.dropIndex_mem_dropping member]
          exact ⟨sql, found, .inr named⟩

theorem drops_dropOpened {index : String} (keepTriggers : Bool) (manifest : Option String)
    (now : String) (files : FileTree) (named : index ∈ unchecked)
    (drops : DropsIndexes server unchecked state) :
    DropsIndexes server unchecked
      (dropOpened server.watched index keepTriggers manifest now files state).2 := by
  have after := drops_dropPresent steady keepTriggers named drops
  unfold dropOpened
  split
  · next reason database failed => rw [failed] at after; exact after
  · next database done =>
      rw [done] at after
      split
      · exact after
      · exact after

end Single

/-! ### Sessions -/

/-- The names whose tables a run over definitions recreates without looking at them. -/
def uncheckedByApply (arguments : ApplyArguments) (set : DefinitionSet) (now : String)
    (files : FileTree) : List String :=
  match startManifest files arguments.manifest now with
  | .error _ => []
  | .ok manifest => uncheckedBy arguments.force manifest set.definitions

/-- Commands one after another over one database, and the names whose tables they drop without
looking at them. Between two commands the files may change. -/
inductive Session (server : Server σ) : List String → Watched σ → Watched σ → Prop where
  | done (state : Watched σ) : Session server [] state state
  | apply {unchecked : List String} {before after : Watched σ} (arguments : ApplyArguments)
      (settings : Settings) (set : DefinitionSet) (now : String) (files : FileTree)
      (rest : Session server unchecked
        (applyOpened server.watched arguments settings set now files before).progress.database
        after) :
      Session server (uncheckedByApply arguments set now files ++ unchecked) before after
  | drop {unchecked : List String} {before after : Watched σ} (index : String)
      (keepTriggers : Bool) (manifest : Option String) (now : String) (files : FileTree)
      (rest : Session server unchecked
        (dropOpened server.watched index keepTriggers manifest now files before).2 after) :
      Session server (index :: unchecked) before after
  | maintain {unchecked : List String} {before after : Watched σ} (index : String)
      (operation : Maintenance)
      (rest : Session server unchecked
        (server.watched.run (Index.maintain index operation) before).2 after) :
      Session server unchecked before after

section Session

variable {server : Server σ}
  (steady : server.Steady)
  {unchecked : List String}

include steady

theorem drops_session {before after : Watched σ} (session : Session server unchecked before after)
    {earlier : List String} (drops : DropsIndexes server earlier before) :
    DropsIndexes server (earlier ++ unchecked) after := by
  induction session generalizing earlier with
  | done state => exact drops.mono (List.subset_append_left earlier [])
  | apply arguments settings set now files rest inductionHypothesis =>
      have named (manifest : Option Manifest)
          (started : startManifest files arguments.manifest now = .ok manifest) :
          uncheckedBy arguments.force manifest set.definitions ⊆
            earlier ++ uncheckedByApply arguments set now files := by
        rw [uncheckedByApply, started]
        exact List.subset_append_right ..
      have applied := inductionHypothesis
        (drops_applyOpened steady named (drops.mono (List.subset_append_left ..)))
      rwa [List.append_assoc] at applied
  | drop index keepTriggers manifest now files rest inductionHypothesis =>
      have named : index ∈ earlier ++ [index] :=
        List.mem_append_right earlier (List.mem_singleton_self index)
      have dropped := inductionHypothesis (drops_dropOpened steady keepTriggers manifest now files
        named (drops.mono (List.subset_append_left ..)))
      rwa [List.append_assoc] at dropped
  | maintain index operation rest inductionHypothesis =>
      exact inductionHypothesis (drops_maintain index operation drops)

/-- Over every session: what is dropped is there, and it is an index, unless its name was given to
the command that drops, it is recreated by force, or its record has another checksum. -/
theorem session_drops_indexes {database : σ} {after : Watched σ}
    (session : Session server unchecked (.start database) after) :
    (∀ statement ∈ after.alone, ∀ index, statement ≠ .dropIndex index) ∧
      ∀ transaction ∈ after.transactions, ∀ index,
        Statement.dropIndex index ∈ transaction.statements →
          ∃ sql, server.stored index transaction.before = .ok (some sql) ∧
            ((Definition.Recovered.ofStatement? sql).isSome = true ∨ index ∈ unchecked) := by
  have drops := drops_session steady session (dropsIndexes_start database)
  exact ⟨drops.alone, drops.together⟩

end Session

def onlyDefinition (definition : Definition) : DefinitionSet where
  entries := ⟨[(definition.name, ⟨definition, none⟩)], List.pairwise_singleton _ _⟩
  source := .memory
  named := by simp

/-- A run that is not forced and keeps no manifest. -/
def untracked : ApplyArguments := ⟨"", "", none, none, false, false, false, false⟩

def applyOnly (definition : Definition) (state : Watched Catalog) : ApplyRun (Watched Catalog) :=
  applyOpened Catalog.server.watched untracked .standard (onlyDefinition definition) "now" .empty
    state

/-- One definition is applied after another of its name. -/
def replaced : Watched Catalog :=
  (applyOnly { titles "notes" none with columns := ["title", "body"] }
    (applyOnly (titles "notes" none) (.start .empty)).progress.database).progress.database

theorem session_drops_indexes_replaced :
    ∃ transaction ∈ replaced.transactions, Statement.dropIndex "notes" ∈ transaction.statements ∧
      ∃ sql, transaction.before.tables.get? "notes" = some sql ∧
        (Definition.Recovered.ofStatement? sql).isSome = true := by
  have session : Session Catalog.server [] (.start .empty) replaced :=
    .apply untracked .standard (onlyDefinition (titles "notes" none)) "now" .empty
      (.apply untracked .standard (onlyDefinition _) "now" .empty (.done replaced))
  obtain ⟨_, drops⟩ := session_drops_indexes (fun _ _ _ => rfl) session
  obtain ⟨transaction, sent, dropped⟩ : ∃ transaction ∈ replaced.transactions,
      Statement.dropIndex "notes" ∈ transaction.statements := by decide +kernel
  obtain ⟨sql, stored, isIndex | none⟩ := drops transaction sent "notes" dropped
  · rw [Catalog.stored_eq] at stored
    exact ⟨transaction, sent, dropped, sql, Except.ok.inj stored, isIndex⟩
  · exact (List.not_mem_nil none).elim

/-- A catalog with a table that is no index. -/
def withUsers : Catalog := ⟨⟨[("users", "CREATE TABLE users (id)")], by decide⟩, .empty⟩

/-- The command that drops is given the name of that table. -/
def dropUsers : Outcome × Watched Catalog :=
  dropOpened Catalog.server.watched "users" false none "now" .empty (.start withUsers)

/-- The table is dropped, although it is no index. -/
theorem dropped_unchecked :
    Session Catalog.server ["users"] (.start withUsers) dropUsers.2 ∧
      dropUsers.1.failure = none ∧
      dropUsers.2.transactions.map Transaction.statements = [Index.dropping "users" true] ∧
      (Definition.Recovered.ofStatement? "CREATE TABLE users (id)").isSome = false ∧
      dropUsers.2.database.tables.get? "users" = none := by
  refine ⟨.drop "users" false none "now" .empty (.done _), ?_⟩
  decide +kernel

end SearchIndex.Command
