import SearchIndex.Proofs.Apply.Settled
import SearchIndex.Proofs.Command.Apply
import SearchIndex.Proofs.Database.Catalog

/-!
Contract: a run brings a database in line, and a second run finds it so.

Owns: `applyOpened_again`. The first run may recreate indexes by force, by their records, or because
their statements differ; and it may leave indexes alone that it never made. In each case what is
left needs nothing, by the test that the second run uses.
-/

namespace SearchIndex.Command

open Database

variable {σ : Type} {server : Server σ} {set : DefinitionSet}

/-- A run that is not forced, directly after one that succeeded, over the same definitions and with
the same manifest: it succeeds, leaves every index alone, sends only questions, and leaves the
manifest and the files as they were. -/
theorem applyOpened_again (keeps : server.KeepsStatements set.definitions)
    {first second : ApplyArguments} (real : first.dryRun = false)
    (unforced : second.force = false) (sameManifest : second.manifest = first.manifest)
    (settings otherSettings : Settings) (now later : String) (files : FileTree) (database : σ)
    (success : (applyOpened server first settings set now files database).outcome.failure = none) :
    let before := applyOpened server first settings set now files database
    let after := applyOpened server.watched second otherSettings set later before.outcome.files
      (.start before.progress.database)
    after.outcome.failure = none ∧
      after.progress.decided =
        set.definitions.map (fun definition => (definition.name, Apply.Action.unchanged)) ∧
      after.progress.database.transactions = [] ∧
      (∀ statement ∈ after.progress.database.alone, Index.IsQuestion statement) ∧
      after.progress.manifest = before.progress.manifest ∧
      after.outcome.files = before.outcome.files := by
  intro before after
  obtain ⟨manifest, started, run, saved⟩ := exists_of_success real success
  have within : ∀ entry ∈ set.entries.values, entry.definition ∈ set.definitions :=
    fun entry member => List.mem_map_of_mem member
  -- The first run settles every definition, for the manifest that the second run loads.
  have settled := Apply.settled_steps keeps real within set.nodup_names run
  let start : Apply.Progress (Watched σ) :=
    .start (.start before.progress.database) before.progress.manifest
  have startedAgain : startManifest before.outcome.files second.manifest later =
      .ok before.progress.manifest := sameManifest ▸ startManifest_of_saved saved later
  have steady : ∀ entry ∈ set.entries.values, ∀ table state,
      server.watched.stored entry.definition.name
          (server.watched.execute (.storedStatement table) state).2 =
        server.watched.stored entry.definition.name state := by
    intro entry member table state
    rw [Server.stored_watched, Server.stored_watched]
    exact keeps.asking entry.definition (within entry member) table state.database
  have settledAgain : ∀ entry ∈ set.entries.values, Apply.Settled start.manifest
      (server.watched.stored entry.definition.name start.database) entry.definition := by
    intro entry member
    rw [Server.stored_watched]
    exact settled entry member
  have unforcedAgain : (applyOptions second otherSettings later).force = false := unforced
  have nothingSent : Apply.Questioned start.database start.database :=
    ⟨rfl, fun _ member => .inl member⟩
  obtain ⟨progress, runAgain, manifestAgain, decided, transactions, alone⟩ :=
    Apply.steps_of_settled (fun table _ => Apply.questioned_asking server table) unforcedAgain
      steady settledAgain nothingSent
  have outcome : after =
      ⟨finishApply second before.outcome.files set.entries.size progress, progress⟩ :=
    applyOpened_of_steps startedAgain runAgain
  obtain ⟨finished, filesAgain⟩ :=
    finishApply_of_saved saved sameManifest set.entries.size manifestAgain
  rw [outcome]
  refine ⟨finished, ?_, transactions, fun statement member => ?_, manifestAgain, filesAgain⟩
  · rw [decided, DefinitionSet.definitions, List.map_map]
    rfl
  · exact (alone statement member).resolve_left List.not_mem_nil

/-- A catalog in which one of the two names is taken by another table. -/
def olderNotes : Catalog := ⟨⟨[("notes", "CREATE TABLE notes (x)")], by decide⟩, .empty⟩

/-- A forced run that recreates one index and creates the other. -/
def forcedRun : ApplyRun Catalog :=
  applyOpened Catalog.server (tracked true) .standard (notesAndThen none) "now" .empty olderNotes

theorem applyOpened_again_forced :
    forcedRun.outcome.failure = none ∧
      (applyOpened Catalog.server.watched (tracked false) .standard (notesAndThen none) "later"
          forcedRun.outcome.files (.start forcedRun.progress.database)).progress.decided =
        [("notes", .unchanged), ("pages", .unchanged)] := by
  have keeps : Catalog.server.KeepsStatements (notesAndThen none).definitions :=
    Catalog.keepsStatements (by decide)
  have success : forcedRun.outcome.failure = none := by decide +kernel
  obtain ⟨_, decided, _⟩ :=
    applyOpened_again keeps (by rfl : (tracked true).dryRun = false)
      (by rfl : (tracked false).force = false) (by rfl) .standard .standard "now" "later" .empty
      olderNotes success
  exact ⟨success, decided⟩

end SearchIndex.Command
