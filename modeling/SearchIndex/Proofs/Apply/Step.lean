import SearchIndex.Apply
import SearchIndex.Proofs.Definition.RoundTrip
import SearchIndex.Proofs.Index
import SearchIndex.Proofs.Manifest

/-!
Contract: what a step of a run does.

Owns: `decided`, the decision about a definition as a function of the stored statement, and
`decision_eq`, by which the work of deciding comes to that; `keeps_decision`, deciding only asks;
`Stepped` with `stepped_of_step`, the six ways in which a step can go; what its transaction creates
and drops; what `keepRecord` does to a manifest; `stored_of_step`, a step changes no statement of
another definition's table; and `steps_induction`, by which a run keeps what its steps keep.

What a run does is derived from the six ways. No other module looks into a step.
-/

namespace SearchIndex.Apply

open Database

variable {σ : Type} {server : Server σ}

/-! ### Deciding is asking -/

section Asking

variable {property : σ → Prop}
  (asking : ∀ table state, property state →
    property (server.execute (.storedStatement table) state).2)

include asking

theorem keeps_isPresent (table : String) : Work.Keeps property (isPresent server table) :=
  Work.keeps_bind (Index.keeps_of_asks asking _ (Index.asks_storedSql table)) fun _ =>
    Work.keeps_pure _

theorem keeps_matchesDatabase (definition : Definition) :
    Work.Keeps property (matchesDatabase server definition) :=
  Work.keeps_bind (Index.keeps_of_asks asking _ (Index.asks_load definition.name)) fun _ =>
    Work.keeps_pure _

theorem keeps_plan (manifest : Option Manifest) (definition : Definition) (statement : String) :
    Work.Keeps property (plan server manifest definition statement) := by
  refine Work.keeps_bind (keeps_isPresent asking definition.name) fun present => ?_
  cases present with
  | false => exact Work.keeps_pure _
  | true =>
      simp only [Bool.not_true, Bool.false_eq_true, if_false]
      split
      · exact Work.keeps_pure _
      · exact Work.keeps_bind (keeps_matchesDatabase asking definition) fun _ => Work.keeps_pure _

theorem keeps_decision (force : Bool) (manifest : Option Manifest) (definition : Definition)
    (statement : String) :
    Work.Keeps property (decision server force manifest definition statement) := by
  cases force with
  | false => exact keeps_plan asking manifest definition statement
  | true =>
      refine Work.keeps_bind (keeps_isPresent asking definition.name) fun present => ?_
      cases present with
      | false => exact keeps_plan asking manifest definition statement
      | true => exact Work.keeps_pure _

end Asking

/-! ### Decisions -/

/-- What is decided about a definition when the database gives a statement for its table. -/
def decided (force : Bool) (manifest : Option Manifest) (definition : Definition)
    (statement : String) : Except IndexError (Option String) → Except String Action
  | .error error =>
    .error ("Failed to inspect '" ++ definition.name ++ "': " ++ error.message)
  | .ok none => .ok .create
  | .ok (some sql) =>
    if force then .ok .recreate
    else match recordedAction? manifest definition.name statement with
      | some action => .ok action
      | none =>
        match Index.recover definition.name sql with
        | .error error =>
          .error ("Failed to read '" ++ definition.name ++ "': " ++ error.message)
        | .ok recovered => .ok (if agrees recovered definition then .unchanged else .recreate)

section Decisions

variable {definition : Definition}
  (steady : ∀ table state, server.stored definition.name
    (server.execute (.storedStatement table) state).2 = server.stored definition.name state)

theorem isPresent_apply (table : String) (state : σ) :
    isPresent server table state =
      (((server.stored table state).mapError fun error =>
          "Failed to inspect '" ++ table ++ "': " ++ error.message).map Option.isSome,
        (server.execute (.storedStatement table) state).2) := by
  unfold isPresent
  rw [Work.bind_apply, Server.work_apply, Index.run_storedSql]
  cases server.stored table state <;> rfl

theorem matchesDatabase_fst {state : σ} {sql : String}
    (found : server.stored definition.name state = .ok (some sql)) :
    (matchesDatabase server definition state).1 =
      ((Index.recover definition.name sql).mapError fun error =>
        "Failed to read '" ++ definition.name ++ "': " ++ error.message).map fun recovered =>
          agrees recovered definition := by
  unfold matchesDatabase
  rw [Work.bind_pure_fst, Server.work_apply, Index.run_load, found]
  rfl

include steady

theorem plan_eq (manifest : Option Manifest) (statement : String) (state : σ) :
    (plan server manifest definition statement state).1 =
      decided false manifest definition statement (server.stored definition.name state) := by
  unfold plan
  rw [Work.bind_apply, isPresent_apply]
  cases found : server.stored definition.name state with
  | error error => rfl
  | ok stored =>
      cases stored with
      | none => rfl
      | some sql =>
          have still : server.stored definition.name
              (server.execute (.storedStatement definition.name) state).2 = .ok (some sql) :=
            (steady definition.name state).trans found
          have compared := matchesDatabase_fst still
          simp only [Except.mapError, Except.map, Option.isSome_some, Bool.not_true,
            Bool.false_eq_true, if_false, decided]
          cases recordedAction? manifest definition.name statement with
          | some action => rfl
          | none =>
              change ((matchesDatabase server definition >>= fun same =>
                pure (if same then Action.unchanged else .recreate)) _).1 = _
              rw [Work.bind_pure_fst, compared]
              cases Index.recover definition.name sql <;> rfl

theorem decision_eq (force : Bool) (manifest : Option Manifest) (statement : String) (state : σ) :
    (decision server force manifest definition statement state).1 =
      decided force manifest definition statement (server.stored definition.name state) := by
  cases force with
  | false => exact plan_eq steady manifest statement state
  | true =>
      change ((isPresent server definition.name >>= fun present =>
        if present then pure .recreate else plan server manifest definition statement) state).1 = _
      rw [Work.bind_apply, isPresent_apply]
      cases found : server.stored definition.name state with
      | error error => rfl
      | ok stored =>
          cases stored with
          | some sql => rfl
          | none =>
              have still := (steady definition.name state).trans found
              exact (plan_eq steady manifest statement _).trans (by rw [still]; rfl)

omit steady in
theorem stored_of_decision {name statement : String} {force : Bool} {manifest : Option Manifest}
    {state after : σ} {result : Except String Action}
    (steady : ∀ table state, server.stored name (server.execute (.storedStatement table) state).2 =
      server.stored name state)
    (found : decision server force manifest definition statement state = (result, after)) :
    server.stored name after = server.stored name state := by
  have asking (table : String) (between : σ)
      (same : server.stored name between = server.stored name state) :
      server.stored name (server.execute (.storedStatement table) between).2 =
        server.stored name state := (steady table between).trans same
  have kept := keeps_decision asking force manifest definition statement state rfl
  rw [found] at kept
  exact kept

end Decisions

/-! ### Steps -/

/-- The decisions so far, with the one about a definition. -/
def Progress.deciding (before : Progress σ) (definition : Definition) (action : Action) :
    List (String × Action) :=
  before.decided ++ [(definition.name, action)]

/-- What is dropped in the transaction that makes an index. -/
def Action.drops (action : Action) (name : String) : List Statement :=
  if action = .recreate then Index.dropStatements name else []

theorem drops_mem (action : Action) (name : String) :
    action.drops name ∈ [[], Index.dropStatements name] := by
  unfold Action.drops
  split <;> simp

theorem createIndex_of_mem {action : Action} {definition other : Definition}
    {parts : Index.CreateOptions}
    (member : Statement.createIndex definition ∈
      Index.makeStatements (action.drops other.name) other parts) : definition = other := by
  rcases Index.mem_makeStatements member with dropped | created | ⟨event, triggered⟩ | filled
  · unfold Action.drops at dropped
    split at dropped
    · rcases Index.mem_dropStatements.mp dropped with ⟨event, same⟩ | same
      · contradiction
      · contradiction
    · contradiction
  · exact Statement.createIndex.inj created
  · contradiction
  · contradiction

theorem dropIndex_of_mem {action : Action} {name index : String} {definition : Definition}
    {parts : Index.CreateOptions}
    (member : Statement.dropIndex index ∈
      Index.makeStatements (action.drops name) definition parts) :
    action = .recreate ∧ index = name := by
  rcases Index.mem_makeStatements member with dropped | created | ⟨event, triggered⟩ | filled
  · unfold Action.drops at dropped
    split at dropped
    · next recreates =>
        rcases Index.mem_dropStatements.mp dropped with ⟨event, same⟩ | same
        · contradiction
        · exact ⟨recreates, Statement.dropIndex.inj same⟩
    · contradiction
  · contradiction
  · contradiction
  · contradiction

/-- What a step may come to: the definition is refused; the database cannot be asked; the plan is
only told; the index is left alone; it cannot be made; or it is made. -/
inductive Stepped (server : Server σ) (options : Options) (entry : DefinitionEntry)
    (before : Progress σ) : Except String Unit × Progress σ → Prop where
  | invalid {fault : DefinitionError} (rejected : entry.definition.validate = .error fault) :
      Stepped server options entry before (.error fault.message, before)
  | undecided {message : String} {database : σ}
      (accepted : entry.definition.validate = .ok ())
      (failed : decision server options.force before.manifest entry.definition
        entry.definition.render before.database = (.error message, database)) :
      Stepped server options entry before (.error message, { before with database })
  | planned {action : Action} {database : σ}
      (accepted : entry.definition.validate = .ok ())
      (found : decision server options.force before.manifest entry.definition
        entry.definition.render before.database = (.ok action, database))
      (dry : options.dryRun = true) :
      Stepped server options entry before
        (.ok (), ⟨database, before.manifest,
          before.lines ++ [planLine action entry.definition.name],
          before.deciding entry.definition action⟩)
  | left {database : σ}
      (accepted : entry.definition.validate = .ok ())
      (found : decision server options.force before.manifest entry.definition
        entry.definition.render before.database = (.ok .unchanged, database))
      (real : options.dryRun = false) :
      Stepped server options entry before
        (.ok (), ⟨database, before.manifest.map (keepRecord options.now .unchanged entry
            entry.definition.render ((before.manifest.bind fun manifest =>
              manifest.get? entry.definition.name).any IndexRecord.triggers)),
          before.lines, before.deciding entry.definition .unchanged⟩)
  | refused {action : Action} {database after : σ} {error : IndexError}
      (accepted : entry.definition.validate = .ok ())
      (found : decision server options.force before.manifest entry.definition
        entry.definition.render before.database = (.ok action, database))
      (real : options.dryRun = false) (makes : action ≠ .unchanged)
      (failed : server.transact (Index.makeStatements (action.drops entry.definition.name)
        entry.definition options.parts) database = (.error error, after)) :
      Stepped server options entry before
        (.error ("Failed to " ++ action.verb ++ " '" ++ entry.definition.name ++ "': " ++
          error.message), ⟨after, before.manifest, before.lines,
            before.deciding entry.definition action⟩)
  | made {action : Action} {database after : σ} {effects : List Effect}
      (accepted : entry.definition.validate = .ok ())
      (found : decision server options.force before.manifest entry.definition
        entry.definition.render before.database = (.ok action, database))
      (real : options.dryRun = false) (makes : action ≠ .unchanged)
      (committed : server.transact (Index.makeStatements (action.drops entry.definition.name)
        entry.definition options.parts) database = (.ok effects, after)) :
      Stepped server options entry before
        (.ok (), ⟨after, before.manifest.map (keepRecord options.now action entry
            entry.definition.render
            (!(Index.report entry.definition options.parts effects).triggers.isEmpty)),
          before.lines ++
            [reportLine action (Index.report entry.definition options.parts effects)],
          before.deciding entry.definition action⟩)

theorem run_makeIndex {definition : Definition} (accepted : definition.validate = .ok ())
    {action : Action} (parts : Index.CreateOptions) (database : σ) :
    server.run (makeIndex action definition parts) database =
      ((server.transact (Index.makeStatements (action.drops definition.name) definition parts)
          database).1.map (Index.report definition parts),
        (server.transact (Index.makeStatements (action.drops definition.name) definition parts)
          database).2) := by
  unfold makeIndex Action.drops
  split
  · exact Index.run_install accepted ..
  · exact Index.run_install accepted ..

/-- The progress after an index was to be made. -/
theorem perform_apply {options : Options} {definition : Definition} {action : Action}
    (accepted : definition.validate = .ok ()) (makes : action ≠ .unchanged)
    (before : Progress σ) :
    perform server options action definition before =
      match server.transact (Index.makeStatements (action.drops definition.name) definition
        options.parts) before.database with
      | (.ok effects, after) =>
        (.ok (!(Index.report definition options.parts effects).triggers.isEmpty),
          { before with
            database := after
            lines := before.lines ++
              [reportLine action (Index.report definition options.parts effects)] })
      | (.error error, after) =>
        (.error ("Failed to " ++ action.verb ++ " '" ++ definition.name ++ "': " ++ error.message),
          { before with database := after }) := by
  have run : server.run (makeIndex action definition options.parts) before.database = _ :=
    run_makeIndex accepted options.parts before.database
  cases action with
  | unchanged => contradiction
  | create =>
      cases result : server.transact (Index.makeStatements (Action.create.drops definition.name)
        definition options.parts) before.database with
      | mk ended after =>
          rw [result] at run
          simp only [perform, Work.bind_apply, onDatabase, Server.work_apply, run]
          cases ended <;> rfl
  | recreate =>
      cases result : server.transact (Index.makeStatements (Action.recreate.drops definition.name)
        definition options.parts) before.database with
      | mk ended after =>
          rw [result] at run
          simp only [perform, Work.bind_apply, onDatabase, Server.work_apply, run]
          cases ended <;> rfl

theorem carryOut_of_real {options : Options} (real : options.dryRun = false)
    (entry : DefinitionEntry) (statement : String) (action : Action) :
    carryOut server options entry statement action =
      (perform server options action entry.definition >>= fun triggers =>
        .update fun progress => { progress with
          manifest := progress.manifest.map
            (keepRecord options.now action entry statement triggers) }) := by
  rw [carryOut, real]
  rfl

/-- What a step with an accepted definition does once its action was decided on. -/
theorem step_of_decision {options : Options} {entry : DefinitionEntry} {before : Progress σ}
    (accepted : entry.definition.validate = .ok ()) {result : Except String Action} {database : σ}
    (found : decision server options.force before.manifest entry.definition
      entry.definition.render before.database = (result, database)) :
    step server options entry before =
      match result with
      | .ok action => carryOut server options entry entry.definition.render action
          ⟨database, before.manifest, before.lines, before.deciding entry.definition action⟩
      | .error message => (.error message, { before with database }) := by
  have statement : entry.definition.statement = .ok entry.definition.render := by
    rw [Definition.statement, accepted]
    rfl
  simp only [step, statement, Work.bind_apply, Work.ofResult, Except.mapError, Work.current,
    onDatabase, found]
  cases result <;> rfl

theorem stepped_step (server : Server σ) (options : Options) (entry : DefinitionEntry)
    (before : Progress σ) :
    Stepped server options entry before (step server options entry before) := by
  cases accepted : entry.definition.validate with
  | error fault =>
      have outcome : step server options entry before = (.error fault.message, before) := by
        rw [step, Definition.statement, accepted]
        rfl
      rw [outcome]
      exact .invalid accepted
  | ok _ =>
      rcases found : decision server options.force before.manifest entry.definition
        entry.definition.render before.database with ⟨result, database⟩
      have outcome := step_of_decision accepted found
      cases result with
      | error message =>
          rw [outcome]
          exact .undecided accepted found
      | ok action =>
          rw [outcome]
          cases dry : options.dryRun with
          | true =>
              simp only [carryOut, dry]
              exact .planned accepted found dry
          | false =>
              by_cases makes : action = .unchanged
              · subst makes
                simp only [carryOut_of_real dry]
                exact .left accepted found dry
              · simp only [carryOut_of_real dry, Work.bind_apply, perform_apply accepted makes]
                rcases sent : server.transact (Index.makeStatements
                  (action.drops entry.definition.name) entry.definition options.parts)
                  database with ⟨ended, after⟩
                cases ended with
                | error error => exact .refused accepted found dry makes sent
                | ok effects => exact .made accepted found dry makes sent

theorem stepped_of_step {options : Options} {entry : DefinitionEntry} {before : Progress σ}
    {outcome : Except String Unit × Progress σ}
    (done : step server options entry before = outcome) :
    Stepped server options entry before outcome :=
  done ▸ stepped_step server options entry before

/-! ### Records -/

section Records

variable {entry : DefinitionEntry} {now statement other : String} {action : Action}
  {triggers : Bool} {manifest : Manifest}

theorem valid_keepRecord (valid : manifest.Valid) :
    (keepRecord now action entry statement triggers manifest).Valid := by
  unfold keepRecord
  split
  · exact valid.record
  · exact valid

theorem contains_keepRecord :
    (keepRecord now action entry statement triggers manifest).contains entry.definition.name =
      true := by
  unfold keepRecord
  split
  · rw [Manifest.contains_eq_isSome, Manifest.get?_record, if_pos rfl]
    rfl
  · next kept =>
      rw [not_or, Bool.not_eq_true, Bool.not_eq_false'] at kept
      exact kept.2

theorem get?_keepRecord_of_ne (different : entry.definition.name ≠ other) :
    (keepRecord now action entry statement triggers manifest).get? other = manifest.get? other := by
  unfold keepRecord
  split
  · rw [Manifest.get?_record, if_neg different]
  · rfl

theorem standing_keepRecord
    (recorded : action ≠ .unchanged ∨ manifest.contains entry.definition.name = false) :
    (keepRecord now action entry statement triggers manifest).standing entry.definition.name
      statement = .current := by
  rw [keepRecord, if_pos (by simpa using recorded)]
  exact Manifest.standing_record_self

theorem recordedAction?_eq_unchanged_iff {name : String} :
    recordedAction? (some manifest) name statement = some .unchanged ↔
      manifest.standing name statement = .current := by
  rw [recordedAction?, Option.bind_some]
  cases manifest.standing name statement <;> simp

theorem recordedAction?_keepRecord (different : entry.definition.name ≠ other)
    (manifest : Option Manifest) (sql : String) :
    recordedAction? (manifest.map (keepRecord now action entry statement triggers)) other sql =
      recordedAction? manifest other sql := by
  cases manifest with
  | none => rfl
  | some held =>
      simp only [recordedAction?, Option.map_some, Option.bind_some, Manifest.standing,
        get?_keepRecord_of_ne different]

end Records

section Stepped

variable {options : Options} {entry : DefinitionEntry} {before after : Progress σ}
  {result : Except String Unit}

/-- A step changes no more of the manifest than the record of its own index. -/
theorem Stepped.manifest_eq (stepped : Stepped server options entry before (result, after)) :
    after.manifest = before.manifest ∨ ∃ action triggers, after.manifest = before.manifest.map
      (keepRecord options.now action entry entry.definition.render triggers) := by
  cases stepped with
  | invalid | undecided | planned | refused => exact .inl rfl
  | left => exact .inr ⟨_, _, rfl⟩
  | made => exact .inr ⟨_, _, rfl⟩

theorem Stepped.recordedAction?_eq
    (stepped : Stepped server options entry before (result, after)) {other : String}
    (different : entry.definition.name ≠ other) (sql : String) :
    recordedAction? after.manifest other sql = recordedAction? before.manifest other sql := by
  rcases stepped.manifest_eq with same | ⟨action, triggers, changed⟩
  · rw [same]
  · rw [changed, recordedAction?_keepRecord different]

theorem Stepped.isSome_manifest
    (stepped : Stepped server options entry before (result, after)) :
    after.manifest.isSome = before.manifest.isSome := by
  rcases stepped.manifest_eq with same | ⟨action, triggers, changed⟩
  · rw [same]
  · rw [changed, Option.isSome_map]

theorem Stepped.valid_manifest
    (stepped : Stepped server options entry before (result, after))
    (valid : ∀ manifest ∈ before.manifest, manifest.Valid) :
    ∀ manifest ∈ after.manifest, manifest.Valid := by
  rcases stepped.manifest_eq with same | ⟨action, triggers, changed⟩
  · rw [same]
    exact valid
  · rw [changed]
    intro manifest kept
    obtain ⟨old, held, rfl⟩ := Option.mem_map.mp kept
    exact valid_keepRecord (valid old held)

end Stepped

/-! ### Other indexes -/

/-- A step that ends well leaves the statements of other definitions' tables as they are. -/
theorem stored_of_step {definitions : List Definition} (leaves : server.LeavesOthers definitions)
    {options : Options} {entry : DefinitionEntry} {before after : Progress σ}
    (member : entry.definition ∈ definitions)
    (success : step server options entry before = (.ok (), after)) {other : Definition}
    (included : other ∈ definitions) (different : entry.definition.name ≠ other.name) :
    server.stored other.name after.database = server.stored other.name before.database := by
  have steady := leaves.asking other included
  have stepped := stepped_of_step success
  cases stepped with
  | planned _ found => exact stored_of_decision steady found
  | left _ found => exact stored_of_decision steady found
  | made _ found _ _ committed =>
      have unchanged := leaves.others _ member _ (drops_mem ..) _ _ _ _ committed other included
        different
      exact unchanged.trans (stored_of_decision steady found)

/-! ### Runs -/

section Runs

variable (server : Server σ) (options : Options)
  (property : List DefinitionEntry → Progress σ → Prop)
  (stepping : ∀ entry rest before after, property (entry :: rest) before →
    step server options entry before = (.ok (), after) → property rest after)

include stepping

/-- What each successful step keeps holds where a run ends: behind the last definition, or before
the one whose step failed. -/
theorem steps_induction (entries : List DefinitionEntry) {before : Progress σ}
    (start : property entries before) :
    match steps server options entries before with
    | (.ok (), after) => property [] after
    | (.error message, after) => ∃ entry rest between, property (entry :: rest) between ∧
        step server options entry between = (.error message, after) := by
  induction entries generalizing before with
  | nil => exact start
  | cons entry rest inductionHypothesis =>
      rcases first : step server options entry before with ⟨result, between⟩
      cases result with
      | error message =>
          rw [steps, Work.bind_of_error first]
          exact ⟨entry, rest, before, start, first⟩
      | ok _ =>
          rw [steps, Work.bind_of_ok first]
          exact inductionHypothesis (stepping entry rest before between start first)

end Runs

/-- A run that starts with a manifest ends with one, which is valid if the first one was. -/
theorem manifest_of_steps {options : Options} {entries : List DefinitionEntry}
    {before after : Progress σ} (valid : ∀ manifest ∈ before.manifest, manifest.Valid)
    (success : steps server options entries before = (.ok (), after)) :
    after.manifest.isSome = before.manifest.isSome ∧
      ∀ manifest ∈ after.manifest, manifest.Valid := by
  have run := steps_induction server options
    (fun _ progress => progress.manifest.isSome = before.manifest.isSome ∧
      ∀ manifest ∈ progress.manifest, manifest.Valid)
    (fun entry rest between next holds success => by
      have stepped := stepped_of_step success
      exact ⟨stepped.isSome_manifest.trans holds.1, stepped.valid_manifest holds.2⟩)
    entries ⟨rfl, valid⟩
  rw [success] at run
  exact run

end SearchIndex.Apply
