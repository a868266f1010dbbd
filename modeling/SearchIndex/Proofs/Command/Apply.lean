import SearchIndex.Command.Run
import SearchIndex.Proofs.Apply.Step
import SearchIndex.Proofs.Apply.Watched
import SearchIndex.Proofs.DefinitionSet
import SearchIndex.Proofs.Result

/-!
Contract: what a run over an open database reads and saves.

Owns: `Saved`, the files that a successful run leaves, with `startManifest_of_saved` and
`finishApply_of_saved`, by which a later run starts with the manifest that was saved and saves the
same files again; `exists_of_success`, the parts of a successful run; and `applyOpened_watched` and
`dropOpened_watched`, by which commands go the same way whether their database is watched or not.
-/

namespace SearchIndex

namespace Command

open Database

variable {σ : Type}

/-! ### Manifests -/

section Start

variable {files : FileTree} {path : Option String} {now : String} {manifest : Option Manifest}
  (success : startManifest files path now = .ok manifest)

include success

theorem exists_of_startManifest : path = none ∧ manifest = none ∨
    ∃ place held, path = some place ∧ manifest = some held ∧
      Manifest.loadOrNew files place version now = .ok held := by
  cases path with
  | none => exact .inl ⟨rfl, (Except.ok.inj success).symm⟩
  | some place =>
      rw [startManifest] at success
      cases loaded : Manifest.loadOrNew files place version now with
      | error error =>
          rw [loaded] at success
          contradiction
      | ok held =>
          rw [loaded] at success
          exact .inr ⟨place, held, rfl, (Except.ok.inj success).symm, loaded⟩

theorem isSome_startManifest : manifest.isSome = path.isSome := by
  rcases exists_of_startManifest success with ⟨rfl, rfl⟩ | ⟨place, held, rfl, rfl, _⟩
  · rfl
  · rfl

theorem valid_startManifest : ∀ held ∈ manifest, held.Valid := by
  rcases exists_of_startManifest success with ⟨rfl, rfl⟩ | ⟨place, held, rfl, rfl, loaded⟩
  · simp
  · simpa using Manifest.valid_of_loadOrNew loaded

end Start

/-- The files after a run: with its manifest where it keeps one, and else as they were. -/
inductive Saved (files : FileTree) : Option String → Option Manifest → FileTree → Prop where
  | untracked : Saved files none none files
  | tracked {path : String} {manifest : Manifest} {written : FileTree} (valid : manifest.Valid)
      (success : saveManifest files path manifest = .ok written) :
      Saved files (some path) (some manifest) written

section Saved

variable {files written : FileTree} {path : Option String} {manifest : Option Manifest}

theorem write_of_saveManifest {path : String} {manifest : Manifest}
    (success : saveManifest files path manifest = .ok written) :
    files.write path (FileTree.textFile manifest.render) = .ok written :=
  mapError_eq_ok_iff.mp success

theorem load_of_saved {path : String} (saved : Saved files (some path) manifest written) :
    ∃ held, manifest = some held ∧ Manifest.load written path = .ok held := by
  cases saved with
  | tracked valid success =>
      exact ⟨_, rfl, Manifest.load_write valid (write_of_saveManifest success)⟩

/-- A later run starts with the manifest that was saved. -/
theorem startManifest_of_saved (saved : Saved files path manifest written) (now : String) :
    startManifest written path now = .ok manifest := by
  cases saved with
  | untracked => rfl
  | @tracked path held _ valid success =>
      have write := write_of_saveManifest success
      have present : written.contains path = true := by
        rw [FileTree.contains, FileTree.lookup_write write]
        rfl
      have loaded : Manifest.loadOrNew written path version now = .ok held := by
        rw [Manifest.loadOrNew, if_pos present]
        exact Manifest.load_write valid write
      rw [startManifest, loaded]

/-- A run that ends with the manifest that was saved leaves the files as they are. -/
theorem finishApply_of_saved (saved : Saved files path manifest written)
    {arguments : ApplyArguments} (same : arguments.manifest = path) (total : Nat)
    {progress : Apply.Progress σ} (held : progress.manifest = manifest) :
    (finishApply arguments written total progress).failure = none ∧
      (finishApply arguments written total progress).files = written := by
  unfold finishApply
  split
  · exact ⟨rfl, rfl⟩
  · rw [held, same]
    cases saved with
    | untracked => exact ⟨rfl, rfl⟩
    | tracked valid success =>
        have again := FileTree.write_write FileEntry.noConfusion (write_of_saveManifest success)
        simp only [saveManifest, again, Except.mapError]
        exact ⟨rfl, rfl⟩

end Saved

/-! ### Successful runs -/

section Success

variable {server : Server σ} {arguments : ApplyArguments} {settings : Settings}
  {set : DefinitionSet} {now : String} {files : FileTree} {database : σ}

theorem saved_of_finishApply {progress : Apply.Progress σ} {total : Nat}
    (real : arguments.dryRun = false)
    (tracked : progress.manifest.isSome = arguments.manifest.isSome)
    (valid : ∀ manifest ∈ progress.manifest, manifest.Valid)
    (success : (finishApply arguments files total progress).failure = none) :
    Saved files arguments.manifest progress.manifest
      (finishApply arguments files total progress).files := by
  unfold finishApply at success ⊢
  rw [if_neg (by rw [real]; exact Bool.false_ne_true)] at success ⊢
  cases kept : arguments.manifest with
  | none =>
      rw [kept, Option.isSome_none, Option.isSome_eq_false_iff, Option.isNone_iff_eq_none]
        at tracked
      rw [tracked]
      exact .untracked
  | some path =>
      rw [kept, Option.isSome_some, Option.isSome_iff_exists] at tracked
      obtain ⟨held, present⟩ := tracked
      rw [present, kept] at success
      rw [present]
      simp only at success ⊢
      cases saved : saveManifest files path held with
      | error reason =>
          rw [saved] at success
          contradiction
      | ok written => exact .tracked (valid held present) saved

theorem applyOpened_of_error {reason : String}
    (failed : startManifest files arguments.manifest now = .error reason) :
    applyOpened server arguments settings set now files database =
      ⟨.failed files reason, .start database none⟩ := by
  rw [applyOpened, failed]

theorem applyOpened_of_steps {manifest : Option Manifest} {result : Except String Unit}
    {progress : Apply.Progress σ}
    (started : startManifest files arguments.manifest now = .ok manifest)
    (run : Apply.steps server (applyOptions arguments settings now) set.entries.values
      (.start database manifest) = (result, progress)) :
    applyOpened server arguments settings set now files database =
      match result with
      | .error reason => ⟨⟨files, progress.lines, [], some reason⟩, progress⟩
      | .ok () => ⟨finishApply arguments files set.entries.size progress, progress⟩ := by
  simp only [applyOpened, started, run]
  cases result <;> rfl

/-- A run that succeeds has dealt with every definition, and saved its manifest. -/
theorem exists_of_success (real : arguments.dryRun = false)
    (success : (applyOpened server arguments settings set now files database).outcome.failure =
      none) :
    ∃ manifest, startManifest files arguments.manifest now = .ok manifest ∧
      Apply.steps server (applyOptions arguments settings now) set.entries.values
          (.start database manifest) =
        (.ok (), (applyOpened server arguments settings set now files database).progress) ∧
      Saved files arguments.manifest
        (applyOpened server arguments settings set now files database).progress.manifest
        (applyOpened server arguments settings set now files database).outcome.files := by
  cases started : startManifest files arguments.manifest now with
  | error reason =>
      rw [applyOpened_of_error started] at success
      contradiction
  | ok manifest =>
      rcases run : Apply.steps server (applyOptions arguments settings now) set.entries.values
        (.start database manifest) with ⟨result, progress⟩
      rw [applyOpened_of_steps started run] at success ⊢
      cases result with
      | error reason => contradiction
      | ok _ =>
          obtain ⟨tracked, valid⟩ := Apply.manifest_of_steps (valid_startManifest started) run
          exact ⟨manifest, rfl, run, saved_of_finishApply real
            (tracked.trans (isSome_startManifest started)) valid success⟩

theorem files_of_failed_finish {progress : Apply.Progress σ} {total : Nat}
    (failed : (finishApply arguments files total progress).failure ≠ none) :
    (finishApply arguments files total progress).files = files := by
  unfold finishApply at failed ⊢
  split at failed
  · contradiction
  · next real =>
      rw [if_neg real]
      simp only at failed ⊢
      split at failed
      · rfl
      · contradiction

/-- A run that fails leaves the files as they were. -/
theorem files_of_failure
    (failed : (applyOpened server arguments settings set now files database).outcome.failure ≠
      none) :
    (applyOpened server arguments settings set now files database).outcome.files = files := by
  cases started : startManifest files arguments.manifest now with
  | error reason =>
      rw [applyOpened_of_error started]
      rfl
  | ok manifest =>
      rcases run : Apply.steps server (applyOptions arguments settings now) set.entries.values
        (.start database manifest) with ⟨result, progress⟩
      rw [applyOpened_of_steps started run] at failed ⊢
      cases result with
      | error reason => rfl
      | ok _ => exact files_of_failed_finish failed

end Success

/-! ### Watched runs -/

/-- A watched run has the outcome and the progress of the run over the database itself. -/
theorem applyOpened_watched (server : Server σ) (arguments : ApplyArguments) (settings : Settings)
    (set : DefinitionSet) (now : String) (files : FileTree) (database : Watched σ) :
    (applyOpened server.watched arguments settings set now files database).outcome =
        (applyOpened server arguments settings set now files database.database).outcome ∧
      (applyOpened server.watched arguments settings set now files database).progress.unwatched =
        (applyOpened server arguments settings set now files database.database).progress := by
  cases started : startManifest files arguments.manifest now with
  | error reason =>
      rw [applyOpened_of_error started, applyOpened_of_error started]
      exact ⟨rfl, rfl⟩
  | ok manifest =>
      have follows := Apply.steps_watched server (applyOptions arguments settings now)
        set.entries.values (.start database manifest)
      rcases run : Apply.steps server.watched (applyOptions arguments settings now)
        set.entries.values (.start database manifest) with ⟨result, progress⟩
      rw [run] at follows
      have unwatched : Apply.steps server (applyOptions arguments settings now) set.entries.values
          (.start database.database manifest) = (result, progress.unwatched) := follows.symm
      rw [applyOpened_of_steps started run, applyOpened_of_steps started unwatched]
      cases result with
      | error reason => exact ⟨rfl, rfl⟩
      | ok _ => exact ⟨rfl, rfl⟩

theorem dropPresent_watched (server : Server σ) (index : String) (keepTriggers : Bool) :
    Work.Follows Watched.database (dropPresent server.watched index keepTriggers)
      (dropPresent server index keepTriggers) := by
  refine Work.follows_bind (Apply.isPresent_watched server index) fun present => ?_
  cases present with
  | false => exact Work.follows_ofResult _
  | true => exact Server.follows_work_watched _ _

/-- An index is dropped the same way whether its database is watched or not. -/
theorem dropOpened_watched (server : Server σ) (index : String) (keepTriggers : Bool)
    (manifest : Option String) (now : String) (files : FileTree) (database : Watched σ) :
    ((dropOpened server.watched index keepTriggers manifest now files database).1,
        (dropOpened server.watched index keepTriggers manifest now files database).2.database) =
      dropOpened server index keepTriggers manifest now files database.database := by
  have follows := dropPresent_watched server index keepTriggers database
  unfold dropOpened
  rw [← follows]
  rcases dropPresent server.watched index keepTriggers database with ⟨result, after⟩
  cases result with
  | error reason => rfl
  | ok _ =>
      simp only
      cases forgetIndex files manifest index now <;> rfl

/-! ### Samples -/

/-- An index of titles. -/
def titles (name : String) (contentTable : Option String) : Definition :=
  ⟨name, ["title"], ⟨.unicode61, none⟩, none, contentTable, none, []⟩

/-- An index without a content table, and one whose content table may be given. -/
def notesAndThen (contentTable : Option String) : DefinitionSet where
  entries := ⟨[("notes", ⟨titles "notes" none, none⟩),
    ("pages", ⟨titles "pages" contentTable, none⟩)],
    List.pairwise_pair.mpr (by decide : "notes" < "pages")⟩
  source := .memory
  named := by simp [titles]

/-- A run that keeps a manifest. -/
def tracked (force : Bool) : ApplyArguments :=
  ⟨"", "", some "manifest.json", none, false, false, force, false⟩

end Command

end SearchIndex
