import SearchIndex.Database.Session
import SearchIndex.DefinitionSet
import SearchIndex.Index
import SearchIndex.Manifest

/-!
Contract: bringing a database in line with a set of definitions.

The definitions are taken in the order of their names. For each the plan is to create its index, to
recreate it, or to leave it alone: a record in the manifest decides where there is one, and
otherwise the stored statement is read back and compared. A dry run only tells the plan. The first
error ends the run; what was done before stays done.
-/

namespace SearchIndex

namespace Apply

open Database

/-- What is to be done about a definition. -/
inductive Action where
  | create
  | recreate
  | unchanged
deriving DecidableEq, Repr

def Action.verb : Action → String
  | .create => "create"
  | .recreate => "recreate"
  | .unchanged => "unchanged"

/-- How a run goes. -/
structure Options where
  parts : Index.CreateOptions
  /-- Whether indexes that are there are recreated in any case. -/
  force : Bool
  /-- Whether the plan is only told. -/
  dryRun : Bool
  /-- The time of the run. -/
  now : String

/-- The state of a run. -/
structure Progress (σ : Type) where
  database : σ
  manifest : Option Manifest
  /-- What was told so far. -/
  lines : List String
  /-- What was decided about each index so far. -/
  decided : List (String × Action)

/-- The state before the first definition. -/
def Progress.start {σ : Type} (database : σ) (manifest : Option Manifest) : Progress σ :=
  ⟨database, manifest, [], []⟩

/-- The number of indexes that were to be made. -/
def Progress.changed {σ : Type} (progress : Progress σ) : Nat :=
  progress.decided.countP fun entry => entry.2 ≠ .unchanged

variable {σ α : Type}

/-! ### Plans -/

def isPresent (server : Server σ) (table : String) : Work σ Bool := do
  let sql ← server.work (fun error => "Failed to inspect '" ++ table ++ "': " ++ error.message)
    (Index.storedSql table)
  pure sql.isSome

def agrees (recovered : Definition.Recovered) (definition : Definition) : Bool :=
  match recovered.complete? with
  | none => false
  | some stored =>
    match stored.statement, definition.statement with
    | .ok current, .ok desired => current == desired
    | _, _ => false

/-- Whether the index in the database was made by an equivalent statement. -/
def matchesDatabase (server : Server σ) (definition : Definition) : Work σ Bool := do
  let recovered ← server.work
    (fun error => "Failed to read '" ++ definition.name ++ "': " ++ error.message)
    (Index.load definition.name)
  pure (agrees recovered definition)

/-- What the manifest, if it has a record, decides about an index that is there. -/
def recordedAction? (manifest : Option Manifest) (name statement : String) : Option Action :=
  manifest.bind fun manifest =>
    match manifest.standing name statement with
    | .current => some .unchanged
    | .changed => some .recreate
    | .new => none

/-- What is to be done about a definition whose statement is given. -/
def plan (server : Server σ) (manifest : Option Manifest) (definition : Definition)
    (statement : String) : Work σ Action := do
  if !(← isPresent server definition.name) then pure .create
  else match recordedAction? manifest definition.name statement with
    | some action => pure action
    | none => pure (if ← matchesDatabase server definition then .unchanged else .recreate)

/-- The plan, unless an index that is there is recreated in any case. -/
def decision (server : Server σ) (force : Bool) (manifest : Option Manifest)
    (definition : Definition) (statement : String) : Work σ Action := do
  let forced ← if force then isPresent server definition.name else pure false
  if forced then pure .recreate else plan server manifest definition statement

/-! ### Steps -/

/-- Work on the database of a run. -/
def onDatabase (work : Work σ α) : Work (Progress σ) α := fun progress =>
  let (result, database) := work progress.database
  (result, { progress with database })

def tell (line : String) : Work (Progress σ) Unit :=
  .update fun progress => { progress with lines := progress.lines ++ [line] }

def makeIndex (action : Action) (definition : Definition) (parts : Index.CreateOptions) :
    Exchange Index.CreateReport :=
  if action = .recreate then Index.recreate definition parts else Index.create definition parts

/-- What is told of an index that was made. -/
def reportLine (action : Action) (report : Index.CreateReport) : String :=
  action.verb ++ "d " ++ report.index ++ " (" ++ Decimal.natural report.triggers.length ++
    " trigger(s), " ++ Decimal.natural report.populatedRows ++ " row(s) indexed)"

def planLine (action : Action) (name : String) : String :=
  action.verb ++ String.ofList (List.replicate (9 - action.verb.length) ' ') ++ " " ++ name

/-- Makes an index, if the action asks for it, and tells whether it has triggers. -/
def perform (server : Server σ) (options : Options) (action : Action) (definition : Definition) :
    Work (Progress σ) Bool :=
  match action with
  | .unchanged => do
    let progress ← .current
    let record := progress.manifest.bind fun manifest => manifest.get? definition.name
    pure (record.any IndexRecord.triggers)
  | action => do
    let explain (error : IndexError) : String :=
      "Failed to " ++ action.verb ++ " '" ++ definition.name ++ "': " ++ error.message
    let report ← onDatabase
      (server.work explain (makeIndex action definition options.parts))
    tell (reportLine action report)
    pure (!report.triggers.isEmpty)

/-- Records an index that was made, or that is there and has no record yet. -/
def keepRecord (now : String) (action : Action) (entry : DefinitionEntry) (statement : String)
    (triggers : Bool) (manifest : Manifest) : Manifest :=
  if action ≠ .unchanged ∨ !manifest.contains entry.definition.name then
    manifest.record entry.definition.name statement entry.path triggers now
  else manifest

/-- Does what was decided about a definition, and records it. -/
def carryOut (server : Server σ) (options : Options) (entry : DefinitionEntry) (statement : String)
    (action : Action) : Work (Progress σ) Unit :=
  if options.dryRun then tell (planLine action entry.definition.name)
  else do
    let triggers ← perform server options action entry.definition
    .update fun progress => { progress with
      manifest := progress.manifest.map (keepRecord options.now action entry statement triggers) }

def step (server : Server σ) (options : Options) (entry : DefinitionEntry) :
    Work (Progress σ) Unit := do
  let definition := entry.definition
  let statement ← .ofResult (definition.statement.mapError DefinitionError.message)
  let progress ← .current
  let action ← onDatabase
    (decision server options.force progress.manifest definition statement)
  .update fun progress => { progress with
    decided := progress.decided ++ [(definition.name, action)] }
  carryOut server options entry statement action

/-- Deals with definitions one after another, up to the first error. -/
def steps (server : Server σ) (options : Options) : List DefinitionEntry → Work (Progress σ) Unit
  | [] => pure ()
  | entry :: rest => do
    step server options entry
    steps server options rest

end Apply

end SearchIndex
