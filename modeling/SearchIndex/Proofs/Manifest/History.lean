import SearchIndex.Proofs.Checksum.Sha256
import SearchIndex.Proofs.Manifest

/-!
Contract: what a manifest holds after a history of changes.

Owns: `Operation`, a change with the time it is given; `run`, a history of them; `get?_apply` and
`Valid.apply`, what one change does; and, by induction on the history, `get?_run_of_last` and
`get?_run_of_untouched`, by which only the last change of an index counts, and `Valid.run`.
-/

namespace SearchIndex.Manifest

/-- A change of a manifest. -/
inductive Operation where
  | record (name statement : String) (sourceFile : Option String) (triggers : Bool) (now : String)
  | remove (name now : String)

namespace Operation

/-- The index that is recorded or forgotten. -/
def name : Operation → String
  | .record name .. => name
  | .remove name _ => name

def apply (manifest : Manifest) : Operation → Manifest
  | .record name statement sourceFile triggers now =>
    manifest.record name statement sourceFile triggers now
  | .remove name now => manifest.remove name now

/-- What is kept of the index afterwards. -/
def outcome : Operation → Option IndexRecord
  | .record _ statement sourceFile triggers now =>
    some ⟨Sha256.hexDigest statement, sourceFile, now, triggers⟩
  | .remove .. => none

end Operation

/-- The manifest after a history of changes. -/
def run (manifest : Manifest) (history : List Operation) : Manifest :=
  history.foldl Operation.apply manifest

/-- No change of a history is one of the index. -/
def Untouched (name : String) (history : List Operation) : Prop :=
  ∀ operation ∈ history, operation.name ≠ name

instance (name : String) (history : List Operation) : Decidable (Untouched name history) :=
  inferInstanceAs (Decidable (∀ operation ∈ history, operation.name ≠ name))

/-- A change is the last one of its index in a history. -/
def IsLast (operation : Operation) (history : List Operation) : Prop :=
  ∃ before after, history = before ++ operation :: after ∧ Untouched operation.name after

/-- A text of sixty-four hexadecimal digits. -/
def IsDigest (text : String) : Prop :=
  text.length = 64 ∧
    ∀ c ∈ text.toList, ('0' ≤ c ∧ c ≤ '9') ∨ ('a' ≤ c ∧ c ≤ 'f') ∨ ('A' ≤ c ∧ c ≤ 'F')

section

variable {manifest : Manifest} {operation : Operation} {history : List Operation} {name : String}

theorem isChecksum_iff {text : String} : isChecksum text = true ↔ IsDigest text := by
  simp only [isChecksum, IsDigest, Bool.and_eq_true, beq_iff_eq, List.all_eq_true,
    Text.Hex.isDigit_iff]

theorem Valid.isDigest (valid : manifest.Valid) {record : IndexRecord}
    (found : manifest.get? name = some record) : IsDigest record.checksum :=
  isChecksum_iff.mp (valid.checksums (name, record) (NameMap.get?_eq_some_iff.mp found))

/-! ### Single changes -/

theorem get?_remove {now other : String} :
    (manifest.remove name now).get? other = if name = other then none else manifest.get? other := by
  unfold remove
  split
  · exact NameMap.get?_erase ..
  · next absent =>
      split
      · next same =>
          rw [contains_eq_isSome, Option.not_isSome_iff_eq_none, same] at absent
          exact absent
      · rfl

theorem Valid.remove (valid : manifest.Valid) (name now : String) :
    (manifest.remove name now).Valid := by
  unfold Manifest.remove
  split
  · exact ⟨valid.version, fun entry member => valid.checksums entry (List.mem_of_mem_filter member)⟩
  · exact valid

/-- A change leaves its outcome under its name, and all other indexes as they were. -/
theorem get?_apply :
    (operation.apply manifest).get? name =
      if operation.name = name then operation.outcome else manifest.get? name := by
  cases operation with
  | record _ statement =>
      rw [Operation.outcome, ← Checksum.ofText_eq]
      exact get?_record
  | remove => exact get?_remove

theorem Valid.apply (valid : manifest.Valid) (operation : Operation) :
    (operation.apply manifest).Valid := by
  cases operation with
  | record => exact valid.record
  | remove name now => exact valid.remove name now

/-! ### Histories -/

theorem Valid.run (valid : manifest.Valid) (history : List Operation) :
    (manifest.run history).Valid := by
  induction history generalizing manifest with
  | nil => exact valid
  | cons operation history inductionHypothesis => exact inductionHypothesis (valid.apply operation)

theorem get?_run_of_untouched (untouched : Untouched name history) :
    (manifest.run history).get? name = manifest.get? name := by
  induction history generalizing manifest with
  | nil => rfl
  | cons operation history inductionHypothesis =>
      obtain ⟨other, others⟩ := List.forall_mem_cons.mp untouched
      rw [run, List.foldl_cons, ← run, inductionHypothesis others, get?_apply, if_neg other]

theorem get?_run_of_last (last : IsLast operation history) :
    (manifest.run history).get? operation.name = operation.outcome := by
  obtain ⟨before, after, rfl, untouched⟩ := last
  rw [run, List.foldl_append, List.foldl_cons, ← run, ← run, get?_run_of_untouched untouched,
    get?_apply, if_pos rfl]

theorem untouched_or_exists_last (name : String) (history : List Operation) :
    Untouched name history ∨ ∃ operation, IsLast operation history ∧ operation.name = name := by
  induction history with
  | nil => exact .inl fun _ member => (List.not_mem_nil member).elim
  | cons operation history inductionHypothesis =>
      rcases inductionHypothesis with untouched | ⟨last, ⟨before, after, rfl, further⟩, same⟩
      · by_cases here : operation.name = name
        · exact .inr ⟨operation, ⟨[], history, rfl, here ▸ untouched⟩, here⟩
        · exact .inl (List.forall_mem_cons.mpr ⟨here, untouched⟩)
      · exact .inr ⟨last, ⟨operation :: before, after, rfl, further⟩, same⟩

/-- An index is recorded exactly if its last change recorded it, or if it was recorded and not
changed. -/
theorem contains_run_iff :
    (manifest.run history).contains name = true ↔
      (∃ statement sourceFile triggers now,
        IsLast (.record name statement sourceFile triggers now) history) ∨
      (Untouched name history ∧ manifest.contains name = true) := by
  simp only [contains_eq_isSome]
  constructor
  · intro present
    rcases untouched_or_exists_last name history with untouched | ⟨operation, last, rfl⟩
    · rw [get?_run_of_untouched untouched] at present
      exact .inr ⟨untouched, present⟩
    · rw [get?_run_of_last last] at present
      cases operation with
      | record name statement sourceFile triggers now => exact .inl ⟨_, _, _, _, last⟩
      | remove name now => contradiction
  · rintro (⟨statement, sourceFile, triggers, now, last⟩ | ⟨untouched, present⟩)
    · have kept : (manifest.run history).get? name = _ := get?_run_of_last last
      rw [kept]
      rfl
    · rwa [get?_run_of_untouched untouched]

/-! ### Standings -/

theorem standing_eq_new_iff {statement : String} :
    manifest.standing name statement = .new ↔ manifest.contains name = false := by
  rw [contains_eq_isSome, standing]
  cases manifest.get? name with
  | none => exact iff_of_true rfl rfl
  | some record =>
      refine iff_of_false (fun new => ?_) (by simp)
      dsimp only at new
      split at new <;> contradiction

theorem standing_eq_current_iff {statement : String} :
    manifest.standing name statement = .current ↔
      ∃ record, manifest.get? name = some record ∧
        record.checksum = Sha256.hexDigest statement := by
  rw [standing, ← Checksum.ofText_eq]
  cases manifest.get? name with
  | none => simp
  | some record => simp

/-! ### Outcome -/

/-- After every history of changes a checked manifest passes the check, so that it has a version and
a digest for every index, holds what the last change of each index left and all that was not
changed, tells by the SHA-256 digest of a statement whether it made its index, and is loaded again
as it was saved. -/
theorem run_follows_history (checked : manifest.validate = .ok ()) (history : List Operation) :
    (manifest.run history).validate = .ok () ∧ (manifest.run history).version ≠ "" ∧
    (∀ name,
      (∀ record, (manifest.run history).get? name = some record → IsDigest record.checksum) ∧
      ((manifest.run history).contains name = true ↔
        (∃ statement sourceFile triggers now,
          IsLast (.record name statement sourceFile triggers now) history) ∨
        (Untouched name history ∧ manifest.contains name = true)) ∧
      (Untouched name history → (manifest.run history).get? name = manifest.get? name) ∧
      (∀ statement sourceFile triggers now,
        IsLast (.record name statement sourceFile triggers now) history →
          (manifest.run history).get? name =
            some ⟨Sha256.hexDigest statement, sourceFile, now, triggers⟩ ∧
          (manifest.run history).standing name statement = .current) ∧
      ∀ statement,
        ((manifest.run history).standing name statement = .new ↔
          (manifest.run history).contains name = false) ∧
        ((manifest.run history).standing name statement = .current ↔
          ∃ record, (manifest.run history).get? name = some record ∧
            record.checksum = Sha256.hexDigest statement)) ∧
    ∀ (files written : FileTree) (path : String),
      files.write path (FileTree.textFile (manifest.run history).render) = .ok written →
        load written path = .ok (manifest.run history) := by
  have valid := (validate_eq_ok.mp checked).run history
  refine ⟨validate_eq_ok.mpr valid, valid.version, fun name => ⟨fun record => valid.isDigest,
    contains_run_iff, get?_run_of_untouched, ?_,
    fun statement => ⟨standing_eq_new_iff, standing_eq_current_iff⟩⟩,
    fun files written path => load_write valid⟩
  intro statement sourceFile triggers now last
  have kept : (manifest.run history).get? name = _ := get?_run_of_last last
  exact ⟨kept, standing_eq_current_iff.mpr ⟨_, kept, rfl⟩⟩

end

/-- A manifest with one index. -/
def single : Manifest := (new "0.1.0" "t0").record "kept" "CREATE 1" none false "t1"

/-- An index that is made again after it was dropped, and one that is not there. -/
def remade : List Operation :=
  [.record "no\"tes" "CREATE 2" (some "é") true "t2", .remove "no\"tes" "t3", .remove "absent" "t4",
    .record "no\"tes" "" none false "t5"]

theorem run_follows_history_remade :
    single.validate = .ok () ∧ (single.run remade).validate = .ok () ∧
      (single.run remade).standing "no\"tes" "" = .current ∧
      (single.run remade).get? "no\"tes" =
        some ⟨"e3b0c44298fc1c149afbf4c8996fb92427ae41e4649b934ca495991b7852b855", none, "t5",
          false⟩ ∧
      (single.run remade).contains "absent" = false ∧
      (single.run remade).get? "kept" = single.get? "kept" ∧
      ∃ written, FileTree.empty.write "m.json" (FileTree.textFile (single.run remade).render) =
        .ok written ∧ load written "m.json" = .ok (single.run remade) := by
  have checked : single.validate = .ok () := validate_eq_ok.mpr (valid_new "0.1.0" "t0").record
  have digestOfNothing : Sha256.hexDigest "" =
      "e3b0c44298fc1c149afbf4c8996fb92427ae41e4649b934ca495991b7852b855" := by
    rw [← Checksum.ofText_eq]
    decide +kernel
  obtain ⟨valid, -, indexes, loaded⟩ := run_follows_history checked remade
  obtain ⟨-, -, -, recorded, -⟩ := indexes "no\"tes"
  obtain ⟨-, -, kept, -⟩ := indexes "kept"
  have written : ∃ written, FileTree.empty.write "m.json"
      (FileTree.textFile (single.run remade).render) = .ok written := ⟨_, rfl⟩
  obtain ⟨written, success⟩ := written
  obtain ⟨found, current⟩ := recorded _ _ _ _ ⟨remade.take 3, [], rfl, nofun⟩
  rw [digestOfNothing] at found
  exact ⟨checked, valid, current, found, rfl, kept (by decide), written, success,
    loaded _ _ _ success⟩

end SearchIndex.Manifest
