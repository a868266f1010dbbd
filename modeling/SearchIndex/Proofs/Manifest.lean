import SearchIndex.Proofs.Checksum
import SearchIndex.Proofs.FileTree
import SearchIndex.Proofs.Json.RoundTrip
import SearchIndex.Proofs.NameMap
import SearchIndex.Proofs.Result

/-!
Contract: a manifest is kept as it is.

Owns: `Valid`, the conditions of the check, which hold of a new manifest and stay when an index is
recorded; `parse_render`, by which a valid manifest is read back from its text; `load_write`, by
which it is loaded again from the file it was written to; `exists_write_of_load`, by which a file
that was loaded can be written; and `get?_record`, what a record changes.
-/

namespace SearchIndex.Manifest

/-! ### The check -/

/-- The conditions of the check. -/
structure Valid (manifest : Manifest) : Prop where
  version : manifest.version ≠ ""
  checksums : ∀ entry ∈ manifest.indexes.entries, isChecksum entry.2.checksum = true

theorem validate_eq_ok {manifest : Manifest} : manifest.validate = .ok () ↔ manifest.Valid := by
  unfold validate
  split
  · next missing =>
      exact ⟨fun checked => by contradiction, fun valid => (valid.version missing).elim⟩
  · next present =>
      split
      · next name record found =>
          refine ⟨fun checked => by contradiction, fun valid => ?_⟩
          have malformed := List.find?_some found
          rw [valid.checksums _ (List.mem_of_find?_eq_some found)] at malformed
          contradiction
      · next found =>
          refine ⟨fun _ => ⟨present, fun entry member => ?_⟩, fun _ => rfl⟩
          simpa using List.find?_eq_none.mp found entry member

theorem valid_new (toolVersion now : String) : (new toolVersion now).Valid where
  version := (by decide : formatVersion ≠ "")
  checksums := fun _ member => (List.not_mem_nil member).elim

section Record

variable {manifest : Manifest} {name other statement : String} {sourceFile : Option String}
  {triggers : Bool} {now : String}

theorem Valid.record (valid : manifest.Valid) :
    (manifest.record name statement sourceFile triggers now).Valid where
  version := valid.version
  checksums := fun entry member => by
    rcases NameMap.mem_entries_insert member with rfl | old
    · exact Checksum.isChecksum_ofText statement
    · exact valid.checksums entry old

theorem get?_record :
    (manifest.record name statement sourceFile triggers now).get? other =
      if name = other then some ⟨Checksum.ofText statement, sourceFile, now, triggers⟩
      else manifest.get? other :=
  NameMap.get?_insert ..

theorem standing_record_self :
    (manifest.record name statement sourceFile triggers now).standing name statement =
      .current := by
  rw [standing, get?_record, if_pos rfl]
  exact if_pos rfl

end Record

theorem contains_eq_isSome (manifest : Manifest) (name : String) :
    manifest.contains name = (manifest.get? name).isSome :=
  NameMap.contains_eq_isSome ..

/-! ### Documents -/

theorem read_indexToJson (record : IndexRecord) :
    indexLayout.read (indexToJson record) = .ok record := by
  cases record with
  | mk checksum sourceFile appliedAt triggers =>
      cases sourceFile <;> rfl

theorem indexesOfJson_toJson (indexes : NameMap IndexRecord) :
    indexesOfJson (.object (indexes.entries.map fun entry => (entry.1, indexToJson entry.2))) =
      .ok indexes := by
  have read (entries : List (String × IndexRecord)) :
      (entries.map fun entry => (entry.1, indexToJson entry.2)).mapM
        (fun entry => do
          let record ← indexLayout.read entry.2
          Except.ok (entry.1, record)) = (Except.ok entries : Except Mismatch _) := by
    induction entries with
    | nil => rfl
    | cons entry entries inductionHypothesis =>
        rw [List.map_cons, List.mapM_cons, read_indexToJson, inductionHypothesis]
        rfl
  rw [indexesOfJson, read]
  simp only [bind, Except.bind, NameMap.ofList_entries]

theorem read_toJson (manifest : Manifest) : layout.read manifest.toJson = .ok manifest := by
  have indexes := indexesOfJson_toJson manifest.indexes
  change Record.readNamed layout.fields [] (new "" "") [
    ("version", .string manifest.version),
    ("tool_version", .string manifest.toolVersion),
    ("updated_at", .string manifest.updatedAt),
    ("indexes", .object (manifest.indexes.entries.map fun entry =>
      (entry.1, indexToJson entry.2)))] = _
  simp [Record.readNamed, layout, indexes, bind, Except.bind, Json.asString]

/-! ### Files -/

theorem reads_indexToJson (level depth : Nat) (record : IndexRecord) :
    Json.Reads level (depth + 1) (indexToJson record) := by
  refine Json.reads_ofFields ?_
  simp only [List.forall_mem_cons, Option.forall_mem_map, Json.forall_mem_some]
  exact ⟨Json.reads_string _ _ _, fun sourceFile _ => Json.reads_string _ _ sourceFile,
    Json.reads_string _ _ _, Json.reads_boolean _ _ _, fun _ member =>
      (List.not_mem_nil member).elim⟩

theorem reads_toJson (manifest : Manifest) : Json.Reads 0 127 manifest.toJson := by
  have indexes : Json.Reads 1 126 (.object (manifest.indexes.entries.map fun entry =>
      (entry.1, indexToJson entry.2))) := by
    refine Json.reads_object fun entry member => ?_
    obtain ⟨record, _, rfl⟩ := List.mem_map.mp member
    exact reads_indexToJson 2 124 record.2
  refine Json.reads_object ?_
  simp only [List.forall_mem_cons]
  exact ⟨Json.reads_string _ _ _, Json.reads_string _ _ _, Json.reads_string _ _ _, indexes,
    fun _ member => (List.not_mem_nil member).elim⟩

/-- A valid manifest is read back from its text. -/
theorem parse_render {manifest : Manifest} (valid : manifest.Valid) :
    parse manifest.render = .ok manifest := by
  have checked := validate_eq_ok.mpr valid
  rw [parse, render, Json.parse_pretty manifest.reads_toJson]
  simp only [Except.mapError, bind, Except.bind, read_toJson, checked]

/-- A valid manifest is loaded again from the file it was written to. -/
theorem load_write {manifest : Manifest} (valid : manifest.Valid) {files written : FileTree}
    {path : String}
    (success : files.write path (FileTree.textFile manifest.render) = .ok written) :
    load written path = .ok manifest := by
  rw [load, FileTree.readText_write success]
  exact parse_render valid

/-- What is parsed was checked. -/
theorem valid_of_parse {text : String} {manifest : Manifest} (success : parse text = .ok manifest) :
    manifest.Valid := by
  obtain ⟨_, _, success⟩ := bind_eq_ok_iff.mp success
  obtain ⟨parsed, _, success⟩ := bind_eq_ok_iff.mp success
  obtain ⟨_, checked, ⟨⟩⟩ := bind_eq_ok_iff.mp success
  exact validate_eq_ok.mp checked

theorem valid_of_load {files : FileTree} {path : String} {manifest : Manifest}
    (success : load files path = .ok manifest) : manifest.Valid := by
  unfold load at success
  split at success
  · exact valid_of_parse success
  · contradiction
  · contradiction
  · contradiction

/-- A manifest that was loaded can be replaced. -/
theorem exists_write_of_load {files : FileTree} {path : String} {manifest : Manifest}
    (success : load files path = .ok manifest) (entry : FileEntry) :
    ∃ written, files.write path entry = .ok written := by
  unfold load at success
  split at success
  · next text read =>
      obtain ⟨bytes, found⟩ := FileTree.exists_of_readText read
      exact FileTree.exists_write found FileEntry.noConfusion entry
  · contradiction
  · contradiction
  · contradiction

theorem valid_of_loadOrNew {files : FileTree} {path toolVersion now : String} {manifest : Manifest}
    (success : loadOrNew files path toolVersion now = .ok manifest) : manifest.Valid := by
  unfold loadOrNew at success
  split at success
  · exact valid_of_load success
  · exact Except.ok.inj success ▸ valid_new toolVersion now

end SearchIndex.Manifest
