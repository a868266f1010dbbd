import SearchIndex.Proofs.Command.Apply

/-!
Contract: which of the indexes that a run made its manifest holds.

Owns: `Made` and `Recorded`; `records_of_steps`, by which the manifest in memory holds each index
that was made so far; and `applyOpened_records`. An index is made in a transaction of its own, and
the manifest is written once, behind the last definition. A run that stops before leaves the file
as it was, and `unrecorded_of_failure` is such a run.
-/

namespace SearchIndex.Command

open Database

variable {σ : Type}

/-- A transaction that made an index was committed. -/
def Made (state : Watched σ) (definition : Definition) : Prop :=
  ∃ transaction ∈ state.transactions, transaction.committed = true ∧
    Statement.createIndex definition ∈ transaction.statements

instance (state : Watched σ) (definition : Definition) : Decidable (Made state definition) :=
  inferInstanceAs (Decidable (∃ transaction ∈ state.transactions, _))

/-- A manifest file holds the checksum of a definition's statement. -/
def Recorded (files : FileTree) (path : String) (definition : Definition) : Prop :=
  ∃ manifest, Manifest.load files path = .ok manifest ∧
    manifest.standing definition.name definition.render = .current

/-! ### Runs -/

section Runs

variable {server : Server σ} {options : Apply.Options}

/-- There is a manifest, it holds what was made, and what is to come was not made. -/
structure Records (rest : List DefinitionEntry) (progress : Apply.Progress (Watched σ)) : Prop where
  distinct : (rest.map fun entry => entry.definition.name).Nodup
  tracked : progress.manifest.isSome = true
  earlier : ∀ definition, Made progress.database definition →
    ∀ entry ∈ rest, entry.definition.name ≠ definition.name
  recorded : ∀ definition, Made progress.database definition →
    Apply.recordedAction? progress.manifest definition.name definition.render = some .unchanged

section Step

variable (real : options.dryRun = false) {entry : DefinitionEntry} {rest : List DefinitionEntry}
  {before after : Apply.Progress (Watched σ)} (tracked : before.manifest.isSome = true)
  (success : Apply.step server.watched options entry before = (.ok (), after))

include real tracked success

/-- A step makes no index but its own, and records it. -/
theorem made_step {definition : Definition} (made : Made after.database definition) :
    Made before.database definition ∨ definition = entry.definition ∧
      Apply.recordedAction? after.manifest definition.name definition.render =
        some .unchanged := by
  have stepped := Apply.stepped_of_step success
  cases stepped with
  | planned _ _ dry =>
      rw [real] at dry
      contradiction
  | left _ found =>
      left
      unfold Made at made ⊢
      rw [(Apply.questioned_of_decision found).1] at made
      exact made
  | made _ found _ makes committed =>
      obtain ⟨transaction, sent, done, creates⟩ := made
      simp only [(Server.sent_of_transact committed).2,
        (Apply.questioned_of_decision found).1] at sent
      rcases List.mem_append.mp sent with earlier | now
      · exact .inl ⟨transaction, earlier, done, creates⟩
      · rw [List.mem_singleton.mp now] at creates
        obtain rfl := Apply.createIndex_of_mem creates
        obtain ⟨held, present⟩ := Option.isSome_iff_exists.mp tracked
        refine .inr ⟨rfl, ?_⟩
        simp only [present, Option.map_some]
        exact Apply.recordedAction?_eq_unchanged_iff.mpr (Apply.standing_keepRecord (.inl makes))

omit tracked in
theorem records_step (records : Records (entry :: rest) before) : Records rest after := by
  have stepped := Apply.stepped_of_step success
  have distinct := records.distinct
  rw [List.map_cons, List.nodup_cons] at distinct
  refine ⟨distinct.2, stepped.isSome_manifest.trans records.tracked, ?_, ?_⟩
  · intro definition made later member
    rcases made_step real records.tracked success made with before | ⟨same, _⟩
    · exact records.earlier definition before later (List.mem_cons_of_mem entry member)
    · rw [same]
      exact fun equal => distinct.1 (equal ▸ List.mem_map_of_mem member)
  · intro definition made
    rcases made_step real records.tracked success made with before | ⟨_, recorded⟩
    · rw [stepped.recordedAction?_eq (records.earlier definition before entry List.mem_cons_self)]
      exact records.recorded definition before
    · exact recorded

end Step

/-- Behind the last definition the manifest holds each index that was made. -/
theorem records_of_steps (real : options.dryRun = false) {entries : List DefinitionEntry}
    {before after : Apply.Progress (Watched σ)} (records : Records entries before)
    (success : Apply.steps server.watched options entries before = (.ok (), after)) :
    Records [] after := by
  have run := Apply.steps_induction server.watched options Records
    (fun _ _ _ _ records success => records_step real success records) entries records
  rw [success] at run
  exact run

end Runs

/-! ### Manifest files -/

section Files

variable {server : Server σ} {arguments : ApplyArguments} {settings : Settings}
  {set : DefinitionSet} {now : String} {files : FileTree} {database : σ}

/-- After a run that succeeded, its manifest file holds each index that it made. After one that
failed, the file is as it was before. -/
theorem applyOpened_records {path : String} (kept : arguments.manifest = some path)
    (real : arguments.dryRun = false) :
    let run := applyOpened server.watched arguments settings set now files (.start database)
    (run.outcome.failure = none → ∀ definition, Made run.progress.database definition →
        Recorded run.outcome.files path definition) ∧
      (run.outcome.failure ≠ none → run.outcome.files = files) := by
  intro run
  refine ⟨fun success definition made => ?_, files_of_failure⟩
  obtain ⟨manifest, started, steps, saved⟩ := exists_of_success real success
  have tracked : manifest.isSome = true := by
    rw [isSome_startManifest started, kept]
    rfl
  have start : Records set.entries.values (.start (Watched.start database) manifest) :=
    ⟨set.nodup_names, tracked, fun _ ⟨_, sent, _⟩ => (List.not_mem_nil sent).elim,
      fun _ ⟨_, sent, _⟩ => (List.not_mem_nil sent).elim⟩
  have recorded := (records_of_steps real start steps).recorded definition made
  rw [kept] at saved
  obtain ⟨held, present, loaded⟩ := load_of_saved saved
  rw [present] at recorded
  exact ⟨held, loaded, Apply.recordedAction?_eq_unchanged_iff.mp recorded⟩

end Files

/-- A run over an empty catalog. -/
def runOver (set : DefinitionSet) : ApplyRun (Watched Catalog) :=
  applyOpened Catalog.server.watched (tracked false) .standard set "now" .empty (.start .empty)

theorem applyOpened_records_pair :
    Recorded (runOver (notesAndThen none)).outcome.files "manifest.json" (titles "notes" none) ∧
      Recorded (runOver (notesAndThen none)).outcome.files "manifest.json"
        (titles "pages" none) := by
  have success : (runOver (notesAndThen none)).outcome.failure = none := by decide +kernel
  have recorded := (applyOpened_records (by rfl : (tracked false).manifest = some "manifest.json")
    (by rfl)).1 success
  exact ⟨recorded _ (by decide +kernel), recorded _ (by decide +kernel)⟩

/-- The second index cannot be made, as its content table is missing. The first one was made, and
stays without a record. -/
theorem unrecorded_of_failure :
    (runOver (notesAndThen (some "missing"))).outcome.failure ≠ none ∧
      Made (runOver (notesAndThen (some "missing"))).progress.database (titles "notes" none) ∧
      ¬ Recorded (runOver (notesAndThen (some "missing"))).outcome.files "manifest.json"
        (titles "notes" none) := by
  have failed : (runOver (notesAndThen (some "missing"))).outcome.failure ≠ none := by
    decide +kernel
  refine ⟨failed, by decide +kernel, ?_⟩
  rintro ⟨manifest, loaded, _⟩
  have files : (runOver (notesAndThen (some "missing"))).outcome.files = .empty :=
    files_of_failure failed
  rw [files] at loaded
  contradiction

end SearchIndex.Command
