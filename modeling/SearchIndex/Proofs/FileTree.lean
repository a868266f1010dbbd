import SearchIndex.FileTree
import SearchIndex.Proofs.Result
import SearchIndex.Proofs.Text.Utf8

/-!
Contract: what a tree of files holds after a file was written.

Owns: `at?_set_self` and `at?_set_of_ne`, the entries after one was set; `lookup_write` and
`readText_write`, a path leads to what was written there; `write_write`, writing it again changes
nothing; `exists_write`, a file that was found can be written; and `isDirectory_of_names`, what
lists names is a directory.

An entry is never set in the place of a directory, so every way that led somewhere still does.
-/

namespace SearchIndex.FileTree

variable {tree written : FileTree} {place other : Place} {entry : FileEntry} {path : String}

/-! ### Setting an entry -/

/-- The entry under which a place is listed is replaced, and no other. -/
def replaced (place : Place) (entry : FileEntry) (old : Place × FileEntry) : Place × FileEntry :=
  if old.1 == place then (place, entry) else old

theorem set_eq_of_mem (listed : tree.entries.any (fun old => old.1 == place) = true) :
    tree.set place entry = { tree with entries := tree.entries.map (replaced place entry) } :=
  if_pos listed

theorem set_eq_of_not_mem (unlisted : ¬ tree.entries.any (fun old => old.1 == place) = true) :
    tree.set place entry = { tree with entries := tree.entries ++ [(place, entry)] } :=
  if_neg unlisted

theorem fst_replaced (old : Place × FileEntry) : (replaced place entry old).1 = old.1 := by
  unfold replaced
  split
  · next same => exact (eq_of_beq same).symm
  · rfl

theorem replaced_replaced (old : Place × FileEntry) :
    replaced place entry (replaced place entry old) = replaced place entry old := by
  unfold replaced
  split <;> simp_all

theorem find?_map_replaced (entries : List (Place × FileEntry)) :
    ((entries.map (replaced place entry)).find? fun found => found.1 == other) =
      (entries.find? fun found => found.1 == other).map (replaced place entry) := by
  rw [List.find?_map]
  congr 2
  funext old
  rw [Function.comp_apply, fst_replaced]

theorem at?_set_self (below : place ≠ []) : (tree.set place entry).at? place = some entry := by
  have lower : place.isEmpty = false := by simpa using below
  unfold at?
  rw [lower]
  by_cases listed : tree.entries.any (fun old => old.1 == place) = true
  · obtain ⟨found, search⟩ := Option.isSome_iff_exists.mp (List.isSome_find?.trans listed)
    have same : found.1 = place := by simpa using List.find?_some search
    rw [set_eq_of_mem listed, find?_map_replaced, search]
    simp [replaced, same]
  · have missing : (tree.entries.find? fun old => old.1 == place) = none := by
      rw [← Option.not_isSome_iff_eq_none, List.isSome_find?]
      exact listed
    rw [set_eq_of_not_mem listed, List.find?_append, missing]
    simp

theorem at?_set_of_ne (different : other ≠ place) :
    (tree.set place entry).at? other = tree.at? other := by
  have kept (found : Place × FileEntry) (apart : found.1 ≠ place) :
      replaced place entry found = found := by
    rw [replaced, beq_false_of_ne apart]
    rfl
  unfold at?
  congr 1
  by_cases listed : tree.entries.any (fun old => old.1 == place) = true
  · rw [set_eq_of_mem listed, find?_map_replaced]
    cases search : tree.entries.find? fun found => found.1 == other with
    | none => rfl
    | some found =>
        have same : found.1 = other := by simpa using List.find?_some search
        rw [Option.map_some, kept found (same ▸ different)]
  · rw [set_eq_of_not_mem listed, List.find?_append]
    simp [Ne.symm different]

/-- Setting an entry again changes nothing. -/
theorem set_set : (tree.set place entry).set place entry = tree.set place entry := by
  by_cases listed : tree.entries.any (fun old => old.1 == place) = true
  · have still : (tree.set place entry).entries.any (fun old => old.1 == place) = true := by
      rw [set_eq_of_mem listed, List.any_map]
      simpa only [Function.comp_def, fst_replaced] using listed
    rw [set_eq_of_mem still, set_eq_of_mem listed, List.map_map]
    congr 2
    funext old
    exact replaced_replaced old
  · have now : (tree.set place entry).entries.any (fun old => old.1 == place) = true := by
      rw [set_eq_of_not_mem listed, List.any_append]
      simp
    have kept : tree.entries.map (replaced place entry) = tree.entries := by
      refine (List.map_congr_left fun old member => ?_).trans (List.map_id _)
      have apart : ¬ (old.1 == place) = true := fun same =>
        listed (List.any_eq_true.mpr ⟨old, member, same⟩)
      exact if_neg apart
    rw [set_eq_of_mem now, set_eq_of_not_mem listed, List.map_append, kept]
    simp [replaced]

/-! ### Ways through the tree -/

/-- A way passes directories only, so it does not notice an entry that is set elsewhere. -/
theorem walk_set {start last : Place} {parts : List String}
    (free : tree.at? place ≠ some .directory) (way : tree.walk start parts = .ok last) :
    (tree.set place entry).walk start parts = .ok last := by
  induction parts generalizing start with
  | nil => exact way
  | cons part parts inductionHypothesis =>
      rw [walk] at way ⊢
      split at way
      · next standing =>
          have passed : start ≠ place := fun same => free (same ▸ standing)
          rw [at?_set_of_ne passed, standing]
          exact inductionHypothesis way
      · contradiction
      · contradiction

theorem resolve_set (free : tree.at? place ≠ some .directory)
    (leads : tree.resolve path = .ok other) : (tree.set place entry).resolve path = .ok other := by
  have bases : (tree.set place entry).base = tree.base := by
    unfold set
    split <;> rfl
  have origins : (tree.set place entry).origin path = tree.origin path := by
    rw [origin, bases, origin]
  rw [resolve] at leads ⊢
  split at leads
  · contradiction
  · next named =>
      rw [if_neg named, origins]
      exact walk_set free leads

/-- What it takes to write a file. -/
theorem exists_of_write (success : tree.write path entry = .ok written) :
    ∃ place, tree.resolve path = .ok place ∧ tree.at? place ≠ some .directory ∧
      written = tree.set place entry := by
  rw [write] at success
  obtain ⟨place, leads, success⟩ := bind_eq_ok_iff.mp success
  refine ⟨place, leads, ?_⟩
  split at success
  · contradiction
  · next file standing =>
      cases success
      exact ⟨fun directory => file (Option.some.inj (standing.symm.trans directory)), rfl⟩
  · next standing =>
      refine ⟨fun directory => Option.some_ne_none _ (directory.symm.trans standing), ?_⟩
      split at success
      · split at success
        · contradiction
        · cases success
          rfl
      · contradiction
      · contradiction

/-- The root is a directory. -/
theorem ne_root (free : tree.at? place ≠ some .directory) : place ≠ [] :=
  fun root => free (root ▸ rfl)

theorem lookup_write (success : tree.write path entry = .ok written) :
    written.lookup path = .ok entry := by
  obtain ⟨place, leads, free, rfl⟩ := exists_of_write success
  rw [lookup, resolve_set free leads]
  simp only [bind, Except.bind, at?_set_self (ne_root free)]

/-- A text is read again from the file it was written to. -/
theorem readText_write {text : String} (success : tree.write path (textFile text) = .ok written) :
    written.readText path = .ok text := by
  rw [readText, lookup_write success]
  change (Text.Utf8.decode (Text.Utf8.encode text)).mapError _ = _
  rw [Text.Utf8.decode_encode]
  rfl

/-- Writing a file again changes nothing. -/
theorem write_write (file : entry ≠ .directory) (success : tree.write path entry = .ok written) :
    written.write path entry = .ok written := by
  obtain ⟨place, leads, free, rfl⟩ := exists_of_write success
  rw [write, resolve_set free leads]
  simp only [bind, Except.bind, at?_set_self (ne_root free), set_set]

/-- What was found, unless it is a directory, can be replaced. -/
theorem exists_write {old : FileEntry} (found : tree.lookup path = .ok old)
    (file : old ≠ .directory) (entry : FileEntry) :
    ∃ written, tree.write path entry = .ok written := by
  obtain ⟨place, leads, found⟩ := bind_eq_ok_iff.mp found
  split at found
  · next there standing =>
      obtain rfl := Except.ok.inj found
      refine ⟨tree.set place entry, ?_⟩
      rw [write, leads]
      cases there with
      | directory => contradiction
      | file bytes => simp only [bind, Except.bind, standing]
      | database catalog => simp only [bind, Except.bind, standing]
  · contradiction

theorem exists_of_readText {text : String} (read : tree.readText path = .ok text) :
    ∃ bytes, tree.lookup path = .ok (.file bytes) := by
  obtain ⟨there, found, read⟩ := bind_eq_ok_iff.mp read
  cases there with
  | file bytes => exact ⟨bytes, found⟩
  | database catalog => contradiction
  | directory => contradiction

/-- What lists names is a directory. -/
theorem isDirectory_of_names {entries : List String} (listed : tree.names path = .ok entries) :
    tree.isDirectory path = true := by
  obtain ⟨place, leads, listed⟩ := bind_eq_ok_iff.mp listed
  split at listed
  · next standing =>
      have found : tree.lookup path = .ok .directory := by
        rw [lookup, leads]
        simp only [bind, Except.bind, standing]
      rw [isDirectory, found]
  · contradiction
  · contradiction

end SearchIndex.FileTree
