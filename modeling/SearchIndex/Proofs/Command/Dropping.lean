import SearchIndex.Proofs.Command.Apply
import SearchIndex.Proofs.Database.Catalog

/-!
Contract: what a drop leaves behind when it fails.

Owns: `exists_of_forgetIndex`, why a record is not forgotten; `dropPresent_of_atomic`, by which an
index is dropped as a whole or not at all; `failed_dropOpened`, by which a drop that fails did
nothing, unless it found out too late that the manifest cannot be loaded; and
`dropped_without_manifest`, such a drop.

The transaction is committed before the manifest is loaded. Saving it again does not fail, as a
file that was read can be written.
-/

namespace SearchIndex.Command

open Database

variable {σ : Type}

/-! ### Records -/

/-- A record is forgotten, unless the manifest cannot be loaded. -/
theorem exists_of_forgetIndex {files : FileTree} {manifest : Option String}
    {index now reason : String}
    (failed : forgetIndex files manifest index now = .error reason) :
    ∃ path error, manifest = some path ∧ files.contains path = true ∧
      Manifest.load files path = .error error ∧ reason = manifestFailure path error := by
  cases manifest with
  | none => contradiction
  | some path =>
      rw [forgetIndex] at failed
      by_cases missing : !files.contains path
      · rw [if_pos missing] at failed
        contradiction
      · rw [if_neg missing] at failed
        have present : files.contains path = true := by simpa using missing
        cases loaded : Manifest.load files path with
        | error error =>
            rw [loaded] at failed
            exact ⟨path, error, rfl, present, loaded, (Except.error.inj failed).symm⟩
        | ok held =>
            obtain ⟨written, saved⟩ := Manifest.exists_write_of_load loaded
              (FileTree.textFile (held.remove index now).render)
            simp only [loaded, Except.mapError, bind, Except.bind, saveManifest, saved] at failed
            split at failed
            · contradiction
            · contradiction

/-! ### Drops -/

section Drop

variable {server : Server σ} (atomic : server.Atomic) (index : String) (keepTriggers : Bool)
  (database : σ)

include atomic

/-- Either nothing was done, or the transaction that drops the index was committed. -/
theorem dropPresent_of_atomic :
    (∃ reason, dropPresent server index keepTriggers database = (.error reason, database)) ∨
      ∃ effects after, dropPresent server index keepTriggers database = (.ok (), after) ∧
        server.transact (Index.dropping index !keepTriggers) database = (.ok effects, after) := by
  have present : Apply.isPresent server index database = _ := Apply.isPresent_apply index database
  rw [atomic.asking index database] at present
  cases found : server.stored index database with
  | error error =>
      rw [found] at present
      rw [dropPresent, Work.bind_of_error present]
      exact .inl ⟨_, rfl⟩
  | ok stored =>
      rw [found] at present
      rw [dropPresent, Work.bind_of_ok present]
      cases stored with
      | none => exact .inl ⟨_, rfl⟩
      | some sql =>
          rcases sent : server.transact (Index.dropping index !keepTriggers) database with
            ⟨result, after⟩
          simp only [Except.mapError, Except.map, Option.isSome_some, if_true, Server.work_apply,
            Index.run_drop, sent]
          cases result with
          | error error =>
              obtain rfl := atomic.refusing _ _ _ _ sent
              exact .inl ⟨_, rfl⟩
          | ok effects => exact .inr ⟨effects, after, rfl, rfl⟩

/-- A drop that fails leaves the files as they were. It leaves the database as it was too, unless
there is a manifest that cannot be loaded: that is the reason it gives, and it has dropped the index
before. -/
theorem failed_dropOpened (manifest : Option String) (now : String) (files : FileTree) :
    let run := dropOpened server index keepTriggers manifest now files database
    run.1.failure ≠ none →
      run.1.files = files ∧
        (run.2 = database ∨
          ∃ path error effects, manifest = some path ∧ files.contains path = true ∧
            Manifest.load files path = .error error ∧
            run.1.failure = some (manifestFailure path error) ∧
            server.transact (Index.dropping index !keepTriggers) database =
              (.ok effects, run.2)) := by
  intro run failed
  rcases dropPresent_of_atomic atomic index keepTriggers database with
    ⟨reason, kept⟩ | ⟨effects, after, dropped, committed⟩
  · have ended : run = (.failed files reason, database) := by
      simp only [run, dropOpened, kept]
    rw [ended]
    exact ⟨rfl, .inl rfl⟩
  · cases forgets : forgetIndex files manifest index now with
    | error reason =>
        have ended : run = (.failed files reason, after) := by
          simp only [run, dropOpened, dropped, forgets]
        obtain ⟨path, error, tracked, present, malformed, rfl⟩ := exists_of_forgetIndex forgets
        rw [ended]
        exact ⟨rfl, .inr ⟨path, error, effects, tracked, present, malformed, rfl, committed⟩⟩
    | ok written =>
        have success : run.1.failure = none := by
          simp only [run, dropOpened, dropped, forgets, Outcome.success]
        exact (failed success).elim

end Drop

def notesStatement : String := "CREATE VIRTUAL TABLE notes USING fts5(x)"

/-- A catalog with an index whose shadows are gone, so that it cannot be dropped. -/
def damagedNotes : Catalog := ⟨⟨[("notes", notesStatement)], by decide⟩, .empty⟩

def dropDamaged : Outcome × Catalog :=
  dropOpened Catalog.server "notes" false (some "manifest.json") "now" .empty damagedNotes

theorem failed_dropOpened_damaged :
    dropDamaged.1.failure ≠ none ∧ dropDamaged.1.files = .empty ∧
      dropDamaged.2 = damagedNotes := by
  have failed : dropDamaged.1.failure ≠ none := by decide +kernel
  obtain ⟨files, database⟩ := failed_dropOpened Catalog.atomic "notes" false damagedNotes
    (some "manifest.json") "now" .empty failed
  refine ⟨failed, files, database.resolve_right ?_⟩
  rintro ⟨path, _, _, tracked, present, _⟩
  obtain rfl := Option.some.inj tracked
  contradiction

/-- A catalog with an index that can be dropped. -/
def madeNotes : Catalog :=
  ⟨⟨[("notes", notesStatement), ("notes_config", "CREATE TABLE notes_config (k)"),
    ("notes_data", "CREATE TABLE notes_data (id)")], by decide⟩, .empty⟩

/-- A manifest without text. -/
def emptyManifest : FileTree := FileTree.empty.add "manifest.json" (FileTree.textFile "")

def dropMade : Outcome × Catalog :=
  dropOpened Catalog.server "notes" false (some "manifest.json") "now" emptyManifest madeNotes

/-- The index is gone, although the drop failed. -/
theorem dropped_without_manifest :
    ¬ (dropMade.1.failure ≠ none → dropMade.2 = madeNotes ∧ dropMade.1.files = emptyManifest) ∧
      (madeNotes.tables.get? "notes").isSome = true ∧ dropMade.2.tables.get? "notes" = none := by
  obtain ⟨failed, gone⟩ :
      dropMade.1.failure ≠ none ∧ dropMade.2.tables.get? "notes" = none := by decide +kernel
  have there : (madeNotes.tables.get? "notes").isSome = true := by decide
  refine ⟨fun unchanged => ?_, there, gone⟩
  rw [(unchanged failed).1] at gone
  rw [gone] at there
  contradiction

end SearchIndex.Command
