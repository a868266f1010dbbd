import Mathlib.Data.List.Perm.Basic
import SearchIndex.Proofs.DefinitionSet.Loading
import SearchIndex.Proofs.FileTree.Listing
import SearchIndex.Proofs.Text.ByteOrder

/-!
Contract: a set gathers the definitions it is given, and no name is given twice.

Owns: `Holds`, that a set has given entries, whatever their order; `insertAll_outcome`, by which
entries are all gathered or the first repeated name is reported; `holds_of_addFiles`, the same of
files; and `Reordered.ofDirectory`, by which the order of a directory's entries does not matter.
-/

namespace SearchIndex

/-- A name is the first of a list that came before. -/
def FirstRepeated (names : List String) (name : String) : Prop :=
  ∃ before after, names = before ++ name :: after ∧ before.Nodup ∧ name ∈ before

theorem FirstRepeated.not_nodup {names : List String} {name : String}
    (repeated : FirstRepeated names name) : ¬ names.Nodup := by
  obtain ⟨before, after, rfl, _, member⟩ := repeated
  intro distinct
  exact (List.nodup_append.mp distinct).2.2 name member name List.mem_cons_self rfl

namespace DefinitionSet

variable {set larger : DefinitionSet} {held entries : List DefinitionEntry}

def namesOf (entries : List DefinitionEntry) : List String :=
  entries.map fun entry => entry.definition.name

/-- A set has given entries, in whatever order they came. -/
def Holds (set : DefinitionSet) (entries : List DefinitionEntry) : Prop :=
  set.entries.values.Perm entries

/-! ### What a set holds -/

theorem Holds.perm_names (holds : set.Holds held) : set.names.Perm (namesOf held) :=
  set.map_name_values ▸ holds.map _

theorem Holds.nodup (holds : set.Holds held) : (namesOf held).Nodup :=
  holds.perm_names.nodup_iff.mp (NameMap.nodup_names set.entries)

theorem Holds.contains_iff (holds : set.Holds held) (name : String) :
    set.entries.contains name = true ↔ name ∈ namesOf held :=
  NameMap.mem_names_iff.symm.trans holds.perm_names.mem_iff

/-- A definition is found under its name. -/
theorem Holds.get?_eq_some_iff (holds : set.Holds held) {name : String} {definition : Definition} :
    set.get? name = some definition ↔
      definition ∈ held.map DefinitionEntry.definition ∧ definition.name = name := by
  rw [← (holds.map _).mem_iff, get?, Option.map_eq_some_iff]
  constructor
  · rintro ⟨entry, present, rfl⟩
    have member := NameMap.get?_eq_some_iff.mp present
    exact ⟨List.mem_map_of_mem (List.mem_map_of_mem member), (set.named _ member).symm⟩
  · rintro ⟨member, rfl⟩
    obtain ⟨entry, valued, rfl⟩ := List.mem_map.mp member
    obtain ⟨⟨name, entry⟩, present, rfl⟩ := List.mem_map.mp valued
    have same : name = entry.definition.name := set.named _ present
    exact ⟨entry, NameMap.get?_eq_some_iff.mpr (same ▸ present), rfl⟩

/-! ### Entries one after another -/

theorem insert_of_mem (holds : set.Holds held) {entry : DefinitionEntry}
    (taken : entry.definition.name ∈ namesOf held) :
    set.insert entry = .error (.duplicateDefinition entry.definition.name) :=
  if_pos ((holds.contains_iff _).mpr taken)

theorem exists_insert_of_not_mem (holds : set.Holds held) (entry : DefinitionEntry)
    (free : entry.definition.name ∉ namesOf held) :
    ∃ larger, set.insert entry = .ok larger ∧ larger.Holds (held ++ [entry]) := by
  have absent := mt (holds.contains_iff _).mp free
  refine ⟨_, if_neg absent, ?_⟩
  have added : (NameMap.put entry.definition.name entry set.entries.entries).Perm
      ((entry.definition.name, entry) :: set.entries.entries) :=
    NameMap.perm_put (mt NameMap.mem_names_iff.mp absent)
  exact (added.map Prod.snd).trans
    ((holds.cons entry).trans (List.perm_append_singleton entry held).symm)

/-- Entries are all gathered, or the first name that is repeated is reported. The induction takes
along what the set holds, which grows with each entry. -/
theorem insertAll_outcome (holds : set.Holds held) (entries : List DefinitionEntry) :
    (∃ larger, set.insertAll entries = .ok larger ∧ larger.Holds (held ++ entries)) ∨
      ∃ name, FirstRepeated (namesOf (held ++ entries)) name ∧
        set.insertAll entries = .error (.duplicateDefinition name) := by
  induction entries generalizing set held with
  | nil => exact .inl ⟨set, rfl, (List.append_nil held).symm ▸ holds⟩
  | cons entry entries inductionHypothesis =>
      have grown : held ++ entry :: entries = held ++ [entry] ++ entries := by simp
      rw [insertAll, List.foldlM_cons]
      by_cases taken : entry.definition.name ∈ namesOf held
      · refine .inr ⟨entry.definition.name,
          ⟨namesOf held, namesOf entries, ?_, holds.nodup, taken⟩, ?_⟩
        · simp [namesOf]
        · rw [insert_of_mem holds taken]
          rfl
      · obtain ⟨larger, inserted, holdsMore⟩ := exists_insert_of_not_mem holds entry taken
        rw [inserted, grown]
        exact inductionHypothesis holdsMore

/-! ### Files -/

section Files

variable {tree other : FileTree} {kind : Tokenizer.Kind} {directory : String} {paths : List String}

/-- An entry is what a file holds, and names the file. -/
def ComesFrom (tree : FileTree) (kind : Tokenizer.Kind) (path : String) (entry : DefinitionEntry) :
    Prop :=
  entry.path = some path ∧ Definition.load tree path kind = .ok entry.definition

/-- Files that can be added have one entry each. -/
theorem holds_of_addFiles (holds : set.Holds held)
    (added : addFiles tree kind set paths = .ok larger) :
    ∃ entries, List.Forall₂ (ComesFrom tree kind) paths entries ∧
      larger.Holds (held ++ entries) := by
  induction paths generalizing set held with
  | nil =>
      cases added
      exact ⟨[], .nil, (List.append_nil held).symm ▸ holds⟩
  | cons path paths inductionHypothesis =>
      obtain ⟨definition, loaded, grown, inserted, added⟩ := addFiles_cons_eq_ok_iff.mp added
      have free : definition.name ∉ namesOf held := fun taken => by
        rw [insert_of_mem holds taken] at inserted
        contradiction
      obtain ⟨next, again, holdsMore⟩ :=
        exists_insert_of_not_mem holds ⟨definition, some path⟩ free
      obtain rfl := Except.ok.inj (again.symm.trans inserted)
      obtain ⟨entries, held, all⟩ := inductionHypothesis holdsMore added
      exact ⟨⟨definition, some path⟩ :: entries, .cons ⟨rfl, loaded⟩ held, by simpa using all⟩

/-- A file that is added twice has its name twice. -/
theorem nodup_of_comesFrom (come : List.Forall₂ (ComesFrom tree kind) paths entries)
    (distinct : (namesOf entries).Nodup) : paths.Nodup := by
  have named :
      paths.map (fun path => (Definition.load tree path kind).toOption.map Definition.name) =
        (namesOf entries).map some := by
    induction come with
    | nil => rfl
    | cons first others inductionHypothesis =>
        rw [List.map_cons, inductionHypothesis (List.nodup_cons.mp distinct).2, first.2]
        rfl
  exact .of_map _ (named ▸ distinct.map (Option.some_injective _))

/-- The files of definitions among the names that a directory lists. -/
def definitionFiles (directory : String) (names : List String) : List String :=
  (names.filter fun name => (DocumentFormat.ofPath? name).isSome).map (FileTree.joinPath directory)

/-- Names have one increasing order. -/
theorem sortNames_eq_of_perm {names others : List String} (permuted : others.Perm names) :
    sortNames others = sortNames names := by
  have sorted (names : List String) : (sortNames names).Pairwise (· ≤ ·) := by
    refine (List.pairwise_mergeSort ?_ ?_ names).imp of_decide_eq_true
    · intro first second third
      simpa using String.le_trans
    · intro first second
      simpa using String.le_total first second
  have kept : (sortNames others).Perm (sortNames names) :=
    (List.mergeSort_perm _ _).trans (permuted.trans (List.mergeSort_perm _ _).symm)
  exact kept.eq_of_pairwise (fun _ _ _ _ => String.le_antisymm) (sorted _) (sorted _)

theorem exists_of_definitionPaths (found : definitionPaths tree directory = .ok paths) :
    ∃ names, tree.names directory = .ok names ∧ paths.Perm (definitionFiles directory names) := by
  obtain ⟨names, listed, sorted⟩ := bind_eq_ok_iff.mp found
  cases sorted
  exact ⟨names, listed, (List.mergeSort_perm _ _).map _⟩

end Files

end DefinitionSet

/-! ### Orders of a directory -/

namespace FileTree.Reordered

variable {tree other : FileTree}

theorem loadDocument (reordered : Reordered tree other) (path : String) :
    SearchIndex.loadDocument other path = SearchIndex.loadDocument tree path := by
  unfold SearchIndex.loadDocument
  rw [reordered.readText]

theorem load (reordered : Reordered tree other) (path : String) (kind : Tokenizer.Kind) :
    Definition.load other path kind = Definition.load tree path kind := by
  rw [Definition.load, Definition.load, reordered.loadDocument]

theorem definitionPaths (reordered : Reordered tree other) (directory : String) :
    DefinitionSet.definitionPaths other directory =
      DefinitionSet.definitionPaths tree directory := by
  unfold DefinitionSet.definitionPaths
  rcases reordered.names directory with
    ⟨fault, failed, again⟩ | ⟨names, others, listed, again, permuted⟩
  · rw [failed, again]
  · rw [listed, again]
    simp only [bind, Except.bind]
    rw [DefinitionSet.sortNames_eq_of_perm (permuted.filter _)]

theorem addFiles (reordered : Reordered tree other) (kind : Tokenizer.Kind) (set : DefinitionSet)
    (paths : List String) :
    DefinitionSet.addFiles other kind set paths = DefinitionSet.addFiles tree kind set paths := by
  induction paths generalizing set with
  | nil => rfl
  | cons path paths inductionHypothesis =>
      simp only [DefinitionSet.addFiles, reordered.load, inductionHypothesis]

theorem ofDirectory (reordered : Reordered tree other) (directory : String)
    (kind : Tokenizer.Kind) :
    DefinitionSet.ofDirectory other directory kind =
      DefinitionSet.ofDirectory tree directory kind := by
  unfold DefinitionSet.ofDirectory
  rw [reordered.definitionPaths]
  simp only [reordered.addFiles]

end FileTree.Reordered

/-! ### Outcome -/

namespace DefinitionSet

variable {set : DefinitionSet}

theorem holds_empty (source : DefinitionSource) : (empty source).Holds [] := .nil

theorem ofDefinitions_outcome (definitions : List Definition) :
    (∃ set, ofDefinitions definitions = .ok set ∧
      set.Holds (definitions.map fun definition => ⟨definition, none⟩)) ∨
    ∃ name, FirstRepeated (definitions.map Definition.name) name ∧
      ofDefinitions definitions = .error (.duplicateDefinition name) := by
  have names : namesOf ([] ++ definitions.map fun definition => ⟨definition, none⟩) =
      definitions.map Definition.name := by
    simp [namesOf]
  have outcome := insertAll_outcome (holds_empty .memory)
    (definitions.map fun definition => ⟨definition, none⟩)
  rwa [names] at outcome

theorem exists_ofDefinitions_iff {definitions : List Definition} :
    (∃ set, ofDefinitions definitions = .ok set) ↔ (definitions.map Definition.name).Nodup := by
  constructor
  · rintro ⟨set, made⟩
    rcases ofDefinitions_outcome definitions with ⟨other, _, holds⟩ | ⟨name, _, failed⟩
    · have names := holds.nodup
      rwa [namesOf, List.map_map] at names
    · rw [failed] at made
      contradiction
  · intro distinct
    rcases ofDefinitions_outcome definitions with ⟨set, made, _⟩ | ⟨name, repeated, _⟩
    · exact ⟨set, made⟩
    · exact (repeated.not_nodup distinct).elim

theorem holds_of_ofDefinitions {definitions : List Definition}
    (made : ofDefinitions definitions = .ok set) :
    set.Holds (definitions.map fun definition => ⟨definition, none⟩) := by
  rcases ofDefinitions_outcome definitions with ⟨other, again, holds⟩ | ⟨name, _, failed⟩
  · exact Except.ok.inj (again.symm.trans made) ▸ holds
  · rw [failed] at made
    contradiction

theorem firstRepeated_of_ofDefinitions {definitions : List Definition} {fault : LoadError}
    (failed : ofDefinitions definitions = .error fault) :
    ∃ name, FirstRepeated (definitions.map Definition.name) name ∧
      fault = .duplicateDefinition name := by
  rcases ofDefinitions_outcome definitions with ⟨set, made, _⟩ | ⟨name, repeated, reported⟩
  · rw [made] at failed
    contradiction
  · exact ⟨name, repeated, Except.error.inj (failed.symm.trans reported)⟩

/-- A set that was made of a directory has one entry for each of its files. -/
theorem exists_of_ofDirectory {tree : FileTree} {directory : String} {kind : Tokenizer.Kind}
    (made : ofDirectory tree directory kind = .ok set) : ∃ names entries,
      tree.names directory = .ok names ∧ (definitionFiles directory names).Nodup ∧
      List.Forall₂ (ComesFrom tree kind) (definitionFiles directory names) entries ∧
      set.Holds entries := by
  obtain ⟨paths, found, added⟩ := bind_eq_ok_iff.mp made
  obtain ⟨names, listed, permuted⟩ := exists_of_definitionPaths (mapError_eq_ok_iff.mp found)
  obtain ⟨entries, come, holds⟩ := holds_of_addFiles (holds_empty _) added
  rw [List.nil_append] at holds
  -- The entries follow the sorted paths; the same entries can follow the names as they are listed.
  obtain ⟨listedEntries, comeListed, same⟩ :=
    List.perm_comp_forall₂ permuted.symm come
  exact ⟨names, listedEntries, listed,
    permuted.nodup_iff.mp (nodup_of_comesFrom come holds.nodup), comeListed, holds.trans same.symm⟩

/-- For all lists of definitions: a set is made of them exactly if no two have one name, holds them
all and no others in the order of the bytes of their names, and finds each under its name; if not,
the first name that came before is reported. For every directory: the order in which its entries are
listed does not matter, and a set that is made of it has one entry for each definition file. -/
theorem ofDefinitions_gathers (definitions : List Definition) :
    ((∃ set, ofDefinitions definitions = .ok set) ↔ (definitions.map Definition.name).Nodup) ∧
    (∀ set, ofDefinitions definitions = .ok set →
      (set.names.Pairwise fun left right => Text.Utf8.encode left < Text.Utf8.encode right) ∧
      set.entries.values.Perm (definitions.map fun definition => ⟨definition, none⟩) ∧
      ∀ name definition, set.get? name = some definition ↔
        definition ∈ definitions ∧ definition.name = name) ∧
    (∀ fault, ofDefinitions definitions = .error fault → ∃ name,
      FirstRepeated (definitions.map Definition.name) name ∧ fault = .duplicateDefinition name) ∧
    ∀ tree directory kind,
      (∀ other, FileTree.Reordered tree other →
        ofDirectory other directory kind = ofDirectory tree directory kind) ∧
      ∀ set, ofDirectory tree directory kind = .ok set → ∃ names entries,
        tree.names directory = .ok names ∧ (definitionFiles directory names).Nodup ∧
        List.Forall₂ (ComesFrom tree kind) (definitionFiles directory names) entries ∧
        set.entries.values.Perm entries := by
  refine ⟨exists_ofDefinitions_iff, fun set made => ?_, fun fault => firstRepeated_of_ofDefinitions,
    fun tree directory kind => ⟨fun other reordered => reordered.ofDirectory directory kind,
      fun set => exists_of_ofDirectory⟩⟩
  have holds := holds_of_ofDefinitions made
  refine ⟨set.entries.sorted_names.imp Text.Utf8.encode_lt_encode, holds, fun name definition => ?_⟩
  rw [holds.get?_eq_some_iff, List.map_map]
  simp only [Function.comp_def, List.map_id']

/-- A directory that lists its files against the order of their names. -/
def backwards : FileTree where
  base := []
  entries := [
    (["d"], .directory),
    (["d", "b.json"], FileTree.textFile "\x7b\"tableName\":\"notes\",\"columns\":[\"body\"]\x7d"),
    (["d", "readme.txt"], FileTree.textFile "notes"),
    (["d", "a.json"], FileTree.textFile "\x7b\"tableName\":\"tasks\",\"columns\":[\"title\"]\x7d")]

/-- The same directory, in the order of the names. -/
def forwards : FileTree := ⟨[], backwards.entries.reverse⟩

theorem ofDefinitions_gathers_forwards :
    FileTree.Reordered backwards forwards ∧
    (∃ set, ofDirectory forwards "d" .porter = .ok set ∧ set.names = ["notes", "tasks"] ∧
      set.entries.values.length = 2) ∧
    ∃ fault name, ofDefinitions [.new "b" ["x"], .new "a" ["x"], .new "b" []] = .error fault ∧
      fault = .duplicateDefinition name ∧ FirstRepeated ["b", "a", "b"] name := by
  have reordered : FileTree.Reordered backwards forwards :=
    ⟨rfl, List.reverse_perm _, by decide⟩
  have sorted : sortNames ["b.json", "a.json"] = ["a.json", "b.json"] := by
    have after : ¬ "b.json" ≤ "a.json" := by decide
    simp [sortNames, List.mergeSort, after]
  have found : definitionPaths backwards "d" = .ok ["d/a.json", "d/b.json"] := by
    have listed : definitionPaths backwards "d" =
        .ok ((sortNames ["b.json", "a.json"]).map (FileTree.joinPath "d")) := rfl
    rw [listed, sorted]
    rfl
  have named :
      (ofDirectory backwards "d" .porter).toOption.map names = some ["notes", "tasks"] := by
    rw [ofDirectory, found]
    decide +kernel
  obtain ⟨set, made, names⟩ := Option.map_eq_some_iff.mp named
  obtain ⟨-, -, repeated, directories⟩ :=
    ofDefinitions_gathers [.new "b" ["x"], .new "a" ["x"], .new "b" []]
  obtain ⟨orders, holds⟩ := directories backwards "d" .porter
  obtain ⟨name, first, reported⟩ := repeated _ rfl
  have made := toOption_eq_some_iff.mp made
  refine ⟨reordered, ⟨set, (orders forwards reordered).trans made, names, ?_⟩, _, name, rfl,
    reported, first⟩
  obtain ⟨listed, entries, namesListed, -, come, permuted⟩ := holds set made
  cases namesListed
  exact permuted.length_eq.trans come.length_eq.symm

end DefinitionSet

end SearchIndex
