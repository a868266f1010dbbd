import SearchIndex.Proofs.Index
import SearchIndex.Proofs.Synchronization.Statements

/-!
Contract: an index is made in one transaction, or nothing is sent.

Owns: `Makes`, the texts of that transaction, from the definition and what was asked for;
`makingTokens`, what they say; `Reports`, what a report tells of the transaction; and
`made_in_one_transaction`. As what is dropped and what is made stand in the same transaction, an
index that cannot be recreated stays as it was.
-/

namespace SearchIndex.Index

open Database
open Sql (Token)

variable {σ : Type}

/-! ### What is sent -/

/-- The texts that make room for an index. Its triggers go before its table. -/
def roomTexts (recreates : Bool) (index : String) : List String :=
  if recreates then
    ["DROP TRIGGER IF EXISTS " ++ Sql.identifier (index ++ "_ai") ++ ";",
      "DROP TRIGGER IF EXISTS " ++ Sql.identifier (index ++ "_ad") ++ ";",
      "DROP TRIGGER IF EXISTS " ++ Sql.identifier (index ++ "_au") ++ ";",
      "DROP TABLE IF EXISTS " ++ Sql.identifier index ++ ";"]
  else []

/-- The texts that tie an index to its content table, as far as they are asked for. -/
def linkTexts (options : CreateOptions) (link : Synchronization) : List String :=
  (if options.triggers then
      [.insert, .delete, .update].map fun event => (link.trigger event).sql
    else []) ++
    if options.populate then [link.backfill] else []

/-- The texts that make an index by a statement. With a content table the definition gives its
link. -/
inductive Makes (recreates : Bool) (definition : Definition) (options : CreateOptions)
    (sql : String) : List String → Prop where
  | alone (internal : definition.contentTable = none) :
      Makes recreates definition options sql (roomTexts recreates definition.name ++ [sql])
  | tied {source : String} {link : Synchronization}
      (external : definition.contentTable = some source)
      (built : Synchronization.ofDefinition definition = .ok link) :
      Makes recreates definition options sql
        (roomTexts recreates definition.name ++ [sql] ++ linkTexts options link)

/-- A statement that drops something of a kind by its name. -/
def dropTokens (kind name : String) : List Token :=
  [.word "DROP", .word kind, .word "IF", .word "EXISTS", .quoted name, .semicolon]

/-- What is said to make room for an index, where it is made again. -/
def roomTokens (recreates : Bool) (index : String) : List (List Token) :=
  if recreates then
    [dropTokens "TRIGGER" (index ++ "_ai"), dropTokens "TRIGGER" (index ++ "_ad"),
      dropTokens "TRIGGER" (index ++ "_au"), dropTokens "TABLE" index]
  else []

/-- The triggers and the backfill of an index, as far as they are asked for. -/
def linkTokens (options : CreateOptions) (link : Synchronization) : List (List Token) :=
  (if options.triggers then
      [link.triggerTokens (link.index ++ "_ai") "INSERT" link.addRowTokens,
        link.triggerTokens (link.index ++ "_ad") "DELETE" link.removeRowTokens,
        link.triggerTokens (link.index ++ "_au") "UPDATE"
          (link.removeRowTokens ++ link.addRowTokens)]
    else []) ++
    if options.populate then [link.backfillTokens] else []

/-- What the statements of a transaction say, with the definition's own statement in its place. -/
def makingTokens (recreates : Bool) (definition : Definition) (options : CreateOptions)
    (own : List Token) : List (List Token) :=
  roomTokens recreates definition.name ++ [own] ++
    match definition.contentTable with
    | none => []
    | some source => linkTokens options
        ⟨source, definition.name, definition.columns, definition.contentRowId⟩

/-- The statements that make room for an index. -/
def roomStatements (recreates : Bool) (index : String) : List Statement :=
  if recreates then dropStatements index else []

theorem map_sql_roomStatements (recreates : Bool) (index : String) :
    (roomStatements recreates index).map Statement.sql = roomTexts recreates index := by
  cases recreates with
  | false => rfl
  | true =>
      simp only [roomStatements, dropStatements, dropTriggers, roomTexts, if_true, List.map_append,
        List.map_map]
      rfl

theorem makes_makeStatements {definition : Definition} (accepted : definition.validate = .ok ())
    (recreates : Bool) (options : CreateOptions) :
    Makes recreates definition options definition.render
      ((makeStatements (roomStatements recreates definition.name) definition options).map
        Statement.sql) := by
  rw [makeStatements, List.map_append, List.map_append, List.map_append, map_sql_roomStatements]
  cases given : definition.contentTable with
  | none =>
      have noTriggers : triggeredEvents definition options = [] := by simp [triggeredEvents, given]
      have noRows : isPopulated definition options = false := by simp [isPopulated, given]
      simp only [noTriggers, noRows, Bool.false_eq_true, if_false, List.map_nil, List.append_nil]
      exact .alone given
  | some source =>
      have external : definition.contentTable.isSome = true := by rw [given]; rfl
      have tied : ((triggeredEvents definition options).map
            (Statement.createTrigger (linkOf definition))).map Statement.sql ++
          (if isPopulated definition options then [Statement.backfill (linkOf definition)]
            else []).map Statement.sql = linkTexts options (linkOf definition) := by
        simp only [triggeredEvents, isPopulated, external, Bool.true_and, linkTexts]
        cases options.triggers <;> cases options.populate <;> rfl
      rw [List.append_assoc, tied]
      exact .tied given (ofDefinition_eq accepted external)

theorem map_scan_roomTexts (recreates : Bool) (index : String) :
    (roomTexts recreates index).map Token.scan = roomTokens recreates index := by
  cases recreates with
  | false => rfl
  | true =>
      change [Token.scan (Synchronization.dropTrigger index .insert),
        Token.scan (Synchronization.dropTrigger index .delete),
        Token.scan (Synchronization.dropTrigger index .update),
        Token.scan (Synchronization.dropIndex index)] = _
      simp only [Synchronization.scan_dropTrigger, Synchronization.scan_dropIndex]
      rfl

theorem map_scan_linkTexts (options : CreateOptions) (link : Synchronization) :
    (linkTexts options link).map Token.scan = linkTokens options link := by
  unfold linkTexts linkTokens
  cases options.triggers <;> cases options.populate <;>
    simp [Synchronization.scan_trigger, Synchronization.scan_backfill] <;>
    exact ⟨rfl, rfl, rfl⟩

theorem Makes.map_scan {recreates : Bool} {definition : Definition} {options : CreateOptions}
    {sql : String} {texts : List String} (makes : Makes recreates definition options sql texts) :
    texts.map Token.scan = makingTokens recreates definition options (Token.scan sql) := by
  cases makes with
  | alone internal =>
      rw [List.map_append, map_scan_roomTexts, makingTokens, internal, List.append_nil]
      rfl
  | @tied source link external built =>
      obtain ⟨same, name, columns, rowId⟩ := Synchronization.eq_of_ofDefinition built
      have parts : (⟨link.source, definition.name, definition.columns, definition.contentRowId⟩ :
          Synchronization) = link := by
        rw [← name, ← columns, ← rowId]
      rw [List.map_append, List.map_append, map_scan_roomTexts, map_scan_linkTexts, makingTokens,
        same]
      simp only [parts, List.map_singleton]

/-! ### What is reported -/

def createdIndex? : Statement → Option String
  | .createIndex definition => some definition.render
  | _ => none

/-- The name of the trigger that a statement creates. -/
def createdTrigger? : Statement → Option String
  | .createTrigger link .insert => some (link.index ++ "_ai")
  | .createTrigger link .delete => some (link.index ++ "_ad")
  | .createTrigger link .update => some (link.index ++ "_au")
  | _ => none

theorem createdTrigger?_createTrigger (link : Synchronization) (event : Synchronization.Event) :
    createdTrigger? (.createTrigger link event) =
      some (Synchronization.triggerName link.index event) := by
  cases event <;> rfl

/-- The number of rows that some statements copied, by their effects. -/
def copiedRows : List Statement → List Effect → Nat
  | .backfill _ :: rest, effect :: effects => effect.changes + copiedRows rest effects
  | _ :: rest, _ :: effects => copiedRows rest effects
  | _, _ => 0

/-- A report tells what the statements of a transaction made. The rows can be told where the effect
of each statement is known. -/
structure Reports (index : String) (statements : List Statement) (effects : List Effect)
    (report : CreateReport) : Prop where
  index_eq : report.index = index
  sql_eq : statements.filterMap createdIndex? = [report.sql]
  triggers_eq : report.triggers = statements.filterMap createdTrigger?
  rows_eq : effects.length = statements.length →
    report.populatedRows = copiedRows statements effects

/-- Only a backfill copies rows. -/
theorem copiedRows_append {before after : List Statement} {effects others : List Effect}
    (idle : ∀ statement ∈ before, ∀ link, statement ≠ .backfill link)
    (sameLength : before.length = effects.length) :
    copiedRows (before ++ after) (effects ++ others) = copiedRows after others := by
  induction before generalizing effects with
  | nil =>
      obtain rfl := List.length_eq_zero_iff.mp sameLength.symm
      rfl
  | cons statement rest inductionHypothesis =>
      rw [List.forall_mem_cons] at idle
      cases effects with
      | nil => contradiction
      | cons effect effects =>
          have further := inductionHypothesis idle.2 (Nat.succ.inj sameLength)
          cases statement with
          | backfill link => exact (idle.1 link rfl).elim
          | _ => exact further

section Reports

variable {recreates : Bool} {definition : Definition} {options : CreateOptions}

/-- The statements of a transaction before its backfill. -/
def beforeBackfill (recreates : Bool) (definition : Definition) (options : CreateOptions) :
    List Statement :=
  roomStatements recreates definition.name ++ [.createIndex definition] ++
    (triggeredEvents definition options).map (.createTrigger (linkOf definition))

theorem makeStatements_eq : makeStatements (roomStatements recreates definition.name) definition
      options =
    beforeBackfill recreates definition options ++
      if isPopulated definition options then [.backfill (linkOf definition)] else [] := rfl

theorem ne_backfill_of_mem {statement : Statement}
    (member : statement ∈ beforeBackfill recreates definition options) (link : Synchronization) :
    statement ≠ .backfill link := by
  simp only [beforeBackfill, roomStatements, List.mem_append, List.mem_singleton, List.mem_map]
    at member
  rcases member with (dropped | rfl) | ⟨event, _, rfl⟩
  · split at dropped
    · rcases mem_dropStatements.mp dropped with ⟨event, rfl⟩ | rfl <;> exact Statement.noConfusion
    · contradiction
  · exact Statement.noConfusion
  · exact Statement.noConfusion

theorem filterMap_roomStatements {α : Type} {made? : Statement → Option α} (index : String)
    (trigger : ∀ event, made? (.dropTrigger index event) = none)
    (table : made? (.dropIndex index) = none) :
    (roomStatements recreates index).filterMap made? = [] := by
  rw [List.filterMap_eq_nil_iff]
  intro statement member
  unfold roomStatements at member
  split at member
  · rcases mem_dropStatements.mp member with ⟨event, rfl⟩ | rfl
    · exact trigger event
    · exact table
  · contradiction

theorem reports_report (effects : List Effect) :
    Reports definition.name
      (makeStatements (roomStatements recreates definition.name) definition options) effects
      (report definition options effects) := by
  have backfill {α : Type} (made? : Statement → Option α)
      (nothing : made? (.backfill (linkOf definition)) = none) :
      (if isPopulated definition options then [Statement.backfill (linkOf definition)]
        else []).filterMap made? = [] := by
    split
    · simp [nothing]
    · rfl
  refine ⟨rfl, ?_, ?_, ?_⟩
  · have triggers : ((triggeredEvents definition options).map
        (Statement.createTrigger (linkOf definition))).filterMap createdIndex? = [] := by
      simp [List.filterMap_map, createdIndex?]
    rw [makeStatements, List.filterMap_append, List.filterMap_append, List.filterMap_append,
      filterMap_roomStatements _ (fun _ => rfl) rfl, triggers, backfill _ rfl]
    rfl
  · have named : createdTrigger? ∘ Statement.createTrigger (linkOf definition) =
        some ∘ Synchronization.triggerName definition.name :=
      funext fun event => createdTrigger?_createTrigger _ event
    have triggers : ((triggeredEvents definition options).map
        (Statement.createTrigger (linkOf definition))).filterMap createdTrigger? =
          (triggeredEvents definition options).map
            (Synchronization.triggerName definition.name) := by
      rw [List.filterMap_map, named, List.filterMap_eq_map]
    rw [makeStatements, List.filterMap_append, List.filterMap_append, List.filterMap_append,
      filterMap_roomStatements _ (fun _ => rfl) rfl, triggers, backfill _ rfl, List.append_nil]
    rfl
  · intro known
    rw [makeStatements_eq] at known ⊢
    cases populated : isPopulated definition options with
    | false =>
        simp only [populated, Bool.false_eq_true, if_false, List.append_nil] at known
        have copied : copiedRows (beforeBackfill recreates definition options ++ [])
            (effects ++ []) = copiedRows [] [] :=
          copiedRows_append (fun _ member => ne_backfill_of_mem member) known.symm
        rw [List.append_nil effects] at copied
        simp only [report, populated, Bool.false_eq_true, if_false]
        exact copied.symm
    | true =>
        simp only [populated, if_true, List.length_append, List.length_singleton] at known
        -- The backfill stands last, so that its effect is the last one.
        obtain ⟨others, last, rfl⟩ : ∃ others last, effects = others ++ [last] := by
          have some : effects ≠ [] := by
            rintro rfl
            simp at known
          exact ⟨effects.dropLast, effects.getLast some, (List.dropLast_concat_getLast some).symm⟩
        have sameLength : (beforeBackfill recreates definition options).length = others.length := by
          simpa using known.symm
        have copied : copiedRows (beforeBackfill recreates definition options ++
              [.backfill (linkOf definition)]) (others ++ [last]) =
            copiedRows [.backfill (linkOf definition)] [last] :=
          copiedRows_append (fun _ member => ne_backfill_of_mem member) sameLength
        simp only [report, populated, if_true, List.getLast?_concat]
        exact copied.symm

end Reports

/-! ### One transaction -/

/-- A definition that is not valid is reported, and nothing is sent. Else exactly one transaction is
sent, and nothing beside it: what was there is dropped, and then the index, its triggers and its
backfill are made, each by one statement that reads as it should. Where it is refused, the reason is
passed on as it is; where it is committed, the report tells what it made. -/
theorem made_in_one_transaction (server : Server σ) (recreates : Bool) (definition : Definition)
    (options : CreateOptions) (state : Watched σ) :
    let run := server.watched.run
      (if recreates then recreate definition options else create definition options) state
    match definition.validate with
    | .error fault => run = (.error (.definition fault), state)
    | .ok () =>
      ∃ statements sql, definition.statement = .ok sql ∧
        Makes recreates definition options sql (statements.map Statement.sql) ∧
        (statements.map fun statement => Token.scan statement.sql) =
          makingTokens recreates definition options (Token.scan sql) ∧
        match server.transact statements state.database with
        | (.error error, after) =>
          run = (.error error, ⟨after, state.alone,
            state.transactions ++ [⟨state.database, statements, false⟩]⟩)
        | (.ok effects, after) =>
          ∃ report, Reports definition.name statements effects report ∧
            run = (.ok report, ⟨after, state.alone,
              state.transactions ++ [⟨state.database, statements, true⟩]⟩) := by
  intro run
  have installs : run = server.watched.run
      (install (roomStatements recreates definition.name) definition options) state := by
    cases recreates <;> rfl
  rw [installs]
  cases accepted : definition.validate with
  | error fault =>
      have refused : script (roomStatements recreates definition.name) definition options =
          .error fault := by
        rw [script, Definition.statement, accepted]
        rfl
      rw [install, refused]
      rfl
  | ok _ =>
      have compiled : definition.statement = .ok definition.render := by
        rw [Definition.statement, accepted]
        rfl
      have makes := makes_makeStatements accepted recreates options
      have said := makes.map_scan
      rw [List.map_map] at said
      refine ⟨_, _, compiled, makes, said, ?_⟩
      rw [run_install accepted, Server.transact_watched]
      rcases server.transact (makeStatements (roomStatements recreates definition.name) definition
        options) state.database with ⟨result, after⟩
      cases result with
      | error error => rfl
      | ok effects => exact ⟨report definition options effects, reports_report effects, rfl⟩

end SearchIndex.Index
