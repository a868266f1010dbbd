import SearchIndex.Proofs.Apply.DryRun
import SearchIndex.Proofs.Command.Apply
import SearchIndex.Proofs.Database.Catalog

/-!
Contract: a dry run tells what the run itself decides.

Owns: `names_decided`, which definitions a run decided about; `told_of_dry`, what a dry run does;
`decided_of_dry`, by which the run itself decides the same as far as it comes; and `dryRun_tells`.
Both runs start from the same state, with the same definitions, settings and flags, and either may
stop with an error.
-/

namespace SearchIndex.Command

open Database

variable {σ : Type}

/-- The run that only tells its plan. -/
def ApplyArguments.dry (arguments : ApplyArguments) : ApplyArguments :=
  { arguments with dryRun := true }

/-- The run that carries its plan out. -/
def ApplyArguments.real (arguments : ApplyArguments) : ApplyArguments :=
  { arguments with dryRun := false }

section Runs

variable {server : Server σ} {arguments : ApplyArguments} {settings : Settings}
  {set : DefinitionSet} {now : String} {files : FileTree} {database : σ}

/-- A dry run leaves the files as they are, and its output is what it told. -/
theorem outcome_of_dry (planning : arguments.dryRun = true) :
    let run := applyOpened server arguments settings set now files database
    run.outcome.files = files ∧ run.outcome.output = run.progress.lines := by
  intro run
  cases started : startManifest files arguments.manifest now with
  | error reason =>
      have failed : run = _ := applyOpened_of_error started
      rw [failed]
      exact ⟨rfl, rfl⟩
  | ok manifest =>
      rcases steps : Apply.steps server (applyOptions arguments settings now) set.entries.values
        (.start database manifest) with ⟨result, progress⟩
      have ended : run = _ := applyOpened_of_steps started steps
      rw [ended]
      cases result with
      | error reason => exact ⟨rfl, rfl⟩
      | ok _ =>
          simp only [finishApply, planning, if_true]
          exact ⟨rfl, rfl⟩

/-- Once its manifest is there, a run goes as far as its steps do. -/
theorem progress_of_started {manifest : Option Manifest}
    (started : startManifest files arguments.manifest now = .ok manifest) :
    let run := applyOpened server arguments settings set now files database
    let steps := Apply.steps server (applyOptions arguments settings now) set.entries.values
      (.start database manifest)
    run.progress = steps.2 ∧ (run.outcome.failure = none → steps.1 = .ok ()) ∧
      (arguments.dryRun = true → steps.1 = .ok () → run.outcome.failure = none) := by
  intro run steps
  rcases ended : steps with ⟨result, progress⟩
  have outcome : run = _ := applyOpened_of_steps started ended
  rw [outcome]
  cases result with
  | error reason =>
      refine ⟨rfl, fun success => ?_, fun _ success => ?_⟩
      · contradiction
      · contradiction
  | ok _ =>
      refine ⟨rfl, fun _ => rfl, fun planning _ => ?_⟩
      simp only [finishApply, planning, if_true]
      rfl

/-- A run decides about the definitions of its set in their order; if it ends well, about all. -/
theorem names_decided :
    let run := applyOpened server arguments settings set now files database
    run.progress.decided.map Prod.fst <+: set.names ∧
      (run.outcome.failure = none → run.progress.decided.map Prod.fst = set.names) := by
  intro run
  cases started : startManifest files arguments.manifest now with
  | error reason =>
      have failed : run = _ := applyOpened_of_error started
      rw [failed]
      exact ⟨List.nil_prefix, fun success => by contradiction⟩
  | ok manifest =>
      obtain ⟨progress, success, _⟩ : _ ∧ (run.outcome.failure = none → _) ∧ _ :=
        progress_of_started started
      have names := Apply.names_decided_steps (Prod.mk.eta (p := Apply.steps server
        (applyOptions arguments settings now) set.entries.values (.start database manifest))).symm
      rw [set.map_name_values, Apply.Progress.start, List.map_nil, List.nil_append] at names
      rw [progress]
      exact ⟨names.1, fun ended => names.2 (success ended)⟩

/-- Over a watched database: what a dry run decided was told, and nothing was done but to ask. -/
theorem told_of_dry (planning : arguments.dryRun = true) :
    Apply.Told (.start database)
      (applyOpened server.watched arguments settings set now files (.start database)).progress := by
  cases started : startManifest files arguments.manifest now with
  | error reason =>
      rw [applyOpened_of_error started]
      exact ⟨rfl, rfl, fun _ sent => .inl sent⟩
  | ok manifest =>
      rw [(progress_of_started started).1]
      have planningSteps : (applyOptions arguments settings now).dryRun = true := planning
      exact Apply.told_steps planningSteps set.entries.values
        ⟨rfl, rfl, fun _ sent => .inl sent⟩

/-- The decisions of a run are the first of those of its dry run. If the run does not fail, neither
does the dry run. -/
theorem decided_of_dry (leaves : server.LeavesOthers set.definitions) :
    let dry := applyOpened server.watched arguments.dry settings set now files (.start database)
    let real := applyOpened server arguments.real settings set now files database
    real.progress.decided <+: dry.progress.decided ∧
      (real.outcome.failure = none → dry.outcome.failure = none) := by
  intro dry real
  cases started : startManifest files arguments.manifest now with
  | error reason =>
      have dryFailed : dry = ⟨.failed files reason, .start (.start database) none⟩ :=
        applyOpened_of_error started
      have realFailed : real = ⟨.failed files reason, .start database none⟩ :=
        applyOpened_of_error started
      rw [dryFailed, realFailed]
      exact ⟨List.nil_prefix, fun success => by contradiction⟩
  | ok manifest =>
      obtain ⟨dryProgress, _, drySuccess⟩ :
          dry.progress = _ ∧ _ ∧ (_ → _ → dry.outcome.failure = _) := progress_of_started started
      obtain ⟨realProgress, realSuccess, _⟩ :
          real.progress = _ ∧ (real.outcome.failure = _ → _) ∧ _ := progress_of_started started
      have planning : (applyOptions arguments.dry settings now).dryRun = true := rfl
      have sameForce : (applyOptions arguments.dry settings now).force =
          (applyOptions arguments.real settings now).force := rfl
      have within : ∀ entry ∈ set.entries.values, entry.definition ∈ set.definitions :=
        fun entry member => List.mem_map_of_mem member
      let start : Apply.Progress σ := .start database manifest
      have together : Apply.Abreast server set.entries.values start start :=
        ⟨set.nodup_names, rfl, fun _ _ => rfl, fun _ _ _ => rfl⟩
      have abreast := Apply.steps_abreast leaves planning sameForce within together
      -- Both runs are compared over the database itself. Watching the dry one changes nothing.
      obtain ⟨sameResult, sameDecided⟩ := Apply.decided_watched server
        (applyOptions arguments.dry settings now) set.entries.values
        (.start (.start database) manifest)
      rw [dryProgress, realProgress]
      exact ⟨sameDecided ▸ abreast.1,
        fun success => drySuccess rfl (sameResult.trans (abreast.2 (realSuccess success)))⟩

end Runs

/-- A dry run asks and does nothing else, and leaves the files as they are. It tells its decisions,
in the order of the definitions, and about all of them unless it fails. The decisions of the run
itself are the same up to where it stops; if it does not fail, neither does the dry run, and they
are the same throughout. -/
theorem dryRun_tells {server : Server σ} {set : DefinitionSet}
    (leaves : server.LeavesOthers set.definitions) (arguments : ApplyArguments)
    (settings : Settings) (now : String) (files : FileTree) (database : σ) :
    let dry := applyOpened server.watched arguments.dry settings set now files (.start database)
    let real := applyOpened server arguments.real settings set now files database
    dry.progress.database.transactions = [] ∧
      (∀ statement ∈ dry.progress.database.alone, Index.IsQuestion statement) ∧
      dry.outcome.files = files ∧
      dry.outcome.output = dry.progress.decided.map Apply.lineOf ∧
      dry.progress.decided.map Prod.fst <+: set.names ∧
      (dry.outcome.failure = none → dry.progress.decided.map Prod.fst = set.names) ∧
      real.progress.decided <+: dry.progress.decided ∧
      (real.outcome.failure = none →
        dry.outcome.failure = none ∧ dry.progress.decided = real.progress.decided) := by
  intro dry real
  have told : Apply.Told (.start database) dry.progress := told_of_dry rfl
  obtain ⟨filesKept, output⟩ : dry.outcome.files = files ∧ _ := outcome_of_dry rfl
  obtain ⟨names, allNames⟩ : dry.progress.decided.map Prod.fst <+: set.names ∧ _ := names_decided
  obtain ⟨decided, alsoEnds⟩ : real.progress.decided <+: dry.progress.decided ∧ _ :=
    decided_of_dry leaves
  refine ⟨told.asked.1, fun statement sent => ?_, filesKept, output.trans told.lines_eq, names,
    allNames, decided, fun success => ?_⟩
  · exact (told.asked.2 statement sent).resolve_left List.not_mem_nil
  · have ended := alsoEnds success
    -- Both runs decided about every definition, so that the shorter list is the longer one.
    have realNames : real.progress.decided.map Prod.fst = set.names := names_decided.2 success
    have sameLength : real.progress.decided.length = dry.progress.decided.length := by
      rw [← List.length_map Prod.fst, realNames, ← allNames ended, List.length_map]
    exact ⟨ended, (decided.eq_of_length sameLength).symm⟩

/-- A catalog in which the second name is taken by another table. -/
def olderPages : Catalog := ⟨⟨[("pages", "CREATE TABLE pages (x)")], by decide⟩, .empty⟩

/-- A forced run that creates the first index, and fails to recreate the second one. -/
def failingRun : ApplyRun Catalog :=
  applyOpened Catalog.server (tracked true).real .standard (notesAndThen (some "missing")) "now"
    .empty olderPages

/-- The same run, only told. -/
def toldRun : ApplyRun (Watched Catalog) :=
  applyOpened Catalog.server.watched (tracked true).dry .standard (notesAndThen (some "missing"))
    "now" .empty (.start olderPages)

theorem dryRun_tells_failing :
    failingRun.outcome.failure ≠ none ∧
      failingRun.progress.decided = [("notes", .create), ("pages", .recreate)] ∧
      failingRun.progress.decided <+: toldRun.progress.decided ∧
      toldRun.outcome.output = ["create    notes", "recreate  pages"] ∧
      toldRun.progress.database.transactions = [] ∧ toldRun.outcome.files = .empty := by
  have leaves : Catalog.server.LeavesOthers (notesAndThen (some "missing")).definitions :=
    (Catalog.keepsStatements (by decide)).leavesOthers
  obtain ⟨nothingDone, _, filesKept, output, _, _, decided, _⟩ :=
    dryRun_tells leaves (tracked true) .standard "now" .empty olderPages
  have told : toldRun.progress.decided = [("notes", .create), ("pages", .recreate)] := by
    decide +kernel
  refine ⟨by decide +kernel, by decide +kernel, decided, output.trans ?_, nothingDone, filesKept⟩
  exact congrArg (List.map Apply.lineOf) told

end SearchIndex.Command
