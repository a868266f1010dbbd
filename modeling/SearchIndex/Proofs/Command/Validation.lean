import SearchIndex.Command.Run
import SearchIndex.Proofs.DefinitionSet.Loading
import SearchIndex.Proofs.FileTree
import SearchIndex.Proofs.Result

/-!
Contract: a directory passes the check of its definition files exactly if it can be used.

Owns: `filesIn_eq`, the files that are checked are those that are loaded; `complaints_eq_nil_iff`,
there is no complaint about files that are usable; and `validates_iff_loads`, where the two meet.

The check goes on after a complaint and does not take the names of files it complained about.
Loading ends with the first file that cannot be added, and takes invalid definitions in. Both come
down to `Usable`, which says nothing of an order.
-/

namespace SearchIndex.Command

variable {files : FileTree} {kind : Tokenizer.Kind} {directory path : String}
  {paths seen : List String}

/-! ### Files -/

theorem isDefinitionFile_eq (name : String) :
    isDefinitionFile name = (DocumentFormat.ofPath? name).isSome := by
  unfold isDefinitionFile DocumentFormat.ofPath?
  split <;> simp_all

/-- The files that are checked are those that are loaded. -/
theorem filesIn_eq (files : FileTree) (directory : String) :
    filesIn files directory = DefinitionSet.definitionPaths files directory := by
  unfold filesIn DefinitionSet.definitionPaths
  simp only [funext isDefinitionFile_eq]

/-- A directory with a definition file gives a path. -/
theorem exists_definitionPaths {names : List String} {name : String}
    (listed : files.names directory = .ok names) (member : name ∈ names)
    (definitionFile : (DocumentFormat.ofPath? name).isSome = true) :
    ∃ paths, DefinitionSet.definitionPaths files directory = .ok paths ∧ paths ≠ [] := by
  have kept : name ∈ DefinitionSet.sortNames
      (names.filter fun name => (DocumentFormat.ofPath? name).isSome) :=
    (List.mergeSort_perm _ _).mem_iff.mpr (List.mem_filter.mpr ⟨member, definitionFile⟩)
  have mapped := List.mem_map_of_mem (f := FileTree.joinPath directory) kept
  refine ⟨_, ?_, List.ne_nil_of_mem mapped⟩
  rw [DefinitionSet.definitionPaths, listed]
  rfl

theorem definitionPaths_directory (present : files.isDirectory directory = true)
    (found : filesIn files directory = .ok paths) :
    definitionPaths files [directory] = .ok paths := by
  rw [definitionPaths, if_pos present, found]
  exact congrArg Except.ok (List.append_nil paths)

/-! ### Complaints -/

theorem checkFile_eq_ok_iff {name : String} : checkFile files kind path = .ok name ↔
    ∃ definition, Definition.load files path kind = .ok definition ∧
      definition.validate = .ok () ∧ definition.name = name := by
  simp only [checkFile, bind_eq_ok_iff, mapError_eq_ok_iff]
  constructor
  · rintro ⟨definition, loaded, _, valid, ⟨⟩⟩
    exact ⟨definition, loaded, valid, rfl⟩
  · rintro ⟨definition, loaded, valid, rfl⟩
    exact ⟨definition, loaded, (), valid, rfl⟩

/-- A list begins with a complaint unless the first file is valid and its name is new. -/
theorem complaints_cons_eq_nil_iff : complaints files kind seen (path :: paths) = [] ↔
    ∃ name, checkFile files kind path = .ok name ∧ name ∉ seen ∧
      complaints files kind (name :: seen) paths = [] := by
  rw [complaints]
  cases checkFile files kind path with
  | error reason => simp
  | ok name =>
      by_cases taken : name ∈ seen
      · simp [taken]
      · simp [taken]

/-- There is no complaint about files exactly if they are usable beside the names before. -/
theorem complaints_eq_nil_iff : complaints files kind seen paths = [] ↔
    ∃ definitions, Usable files kind (· ∈ seen) paths definitions := by
  induction paths generalizing seen with
  | nil => exact ⟨fun _ => ⟨[], usable_nil⟩, fun _ => rfl⟩
  | cons path paths inductionHypothesis =>
      have names (name : String) : (· ∈ name :: seen) = fun other => other ∈ seen ∨ other = name :=
        funext fun other => propext (List.mem_cons.trans or_comm)
      rw [complaints_cons_eq_nil_iff]
      constructor
      · rintro ⟨name, checked, fresh, others⟩
        obtain ⟨definition, loaded, valid, rfl⟩ := checkFile_eq_ok_iff.mp checked
        obtain ⟨definitions, usable⟩ := inductionHypothesis.mp others
        rw [names] at usable
        exact ⟨definition :: definitions, usable_cons_iff.mpr ⟨loaded, valid, fresh, usable⟩⟩
      · rintro ⟨definitions, usable⟩
        cases definitions with
        | nil => cases usable.held
        | cons definition definitions =>
            obtain ⟨loaded, valid, fresh, others⟩ := usable_cons_iff.mp usable
            rw [← names] at others
            exact ⟨definition.name, checkFile_eq_ok_iff.mpr ⟨definition, loaded, valid, rfl⟩, fresh,
              inductionHypothesis.mpr ⟨definitions, others⟩⟩

theorem complaints_nil_eq_nil_iff : complaints files kind [] paths = [] ↔
    ∃ definitions, Usable files kind (fun _ => False) paths definitions := by
  have names : (· ∈ ([] : List String)) = fun _ => False :=
    funext fun name => eq_false List.not_mem_nil
  rw [complaints_eq_nil_iff, names]

/-! ### Directories -/

section Directory

variable {settings : Option String} {given : Settings}

/-- The check ends well if there is a file and no complaint. -/
theorem runValidate_iff (read : loadSettings files settings = .ok given)
    (found : definitionPaths files [directory] = .ok paths) (filled : paths ≠ []) :
    (runValidate [directory] settings files).failure = none ↔
      complaints files given.index.defaultTokenizer [] paths = [] := by
  have listed : paths.isEmpty = false := by simpa using filled
  simp only [runValidate, read, found, bind, Except.bind, listed, Bool.false_eq_true, if_false]
  split
  · next none => simpa [Outcome.success] using none
  · next complained => simpa using complained

/-- A directory can be loaded without problems if its files are usable. -/
theorem loadDefinitions_iff (present : files.isDirectory directory = true)
    (found : DefinitionSet.definitionPaths files directory = .ok paths) :
    (∃ set, loadDefinitions files directory kind = .ok set ∧ set.problems = []) ↔
      ∃ definitions, Usable files kind (fun _ => False) paths definitions := by
  have loaded : DefinitionSet.ofDirectory files directory kind =
      DefinitionSet.addFiles files kind (.empty (.directory directory)) paths := by
    rw [DefinitionSet.ofDirectory, found]
    rfl
  rw [← DefinitionSet.exists_addFiles_empty_iff (.directory directory)]
  simp only [loadDefinitions, present, if_true, loaded, mapError_eq_ok_iff]

/-- A directory passes the check of its definition files exactly if its definitions can be loaded
and are valid. -/
theorem validates_iff_loads {names : List String} {name : String}
    (listed : files.names directory = .ok names) (member : name ∈ names)
    (definitionFile : (DocumentFormat.ofPath? name).isSome = true)
    (read : loadSettings files settings = .ok given) :
    (runValidate [directory] settings files).failure = none ↔
      ∃ set, loadDefinitions files directory given.index.defaultTokenizer = .ok set ∧
        set.problems = [] := by
  have present := FileTree.isDirectory_of_names listed
  obtain ⟨paths, found, filled⟩ := exists_definitionPaths listed member definitionFile
  have checked : definitionPaths files [directory] = .ok paths :=
    definitionPaths_directory present ((filesIn_eq files directory).trans found)
  rw [runValidate_iff read checked filled, complaints_nil_eq_nil_iff,
    loadDefinitions_iff present found]

end Directory

/-- A directory with a valid definition, a text of another kind and a second definition. -/
def besideNotes (second : String) : FileTree where
  base := []
  entries := [
    (["d"], .directory),
    (["d", "b.json"], FileTree.textFile second),
    (["d", "readme.txt"], FileTree.textFile "notes"),
    (["d", "a.yml"], FileTree.textFile "tableName: notes\ncolumns: [body]")]

/-- A valid definition with a name of its own. -/
def tasks : String := "\x7b\"tableName\":\"tasks\",\"columns\":[\"title\"]\x7d"

/-- An invalid definition with the name of the first one. -/
def clashing : String := "\x7b\"tableName\":\"notes\",\"columns\":[]\x7d"

theorem runValidate_besideNotes (second : String) :
    (runValidate ["d"] none (besideNotes second)).failure = none ↔
      complaints (besideNotes second) .unicode61 [] ["d/a.yml", "d/b.json"] = [] := by
  have sorted : DefinitionSet.sortNames ["b.json", "a.yml"] = ["a.yml", "b.json"] := by
    have after : ¬ "b.json" ≤ "a.yml" := by decide
    simp [DefinitionSet.sortNames, List.mergeSort, after]
  have found : filesIn (besideNotes second) "d" = .ok ["d/a.yml", "d/b.json"] := by
    have listed : filesIn (besideNotes second) "d" =
        .ok ((DefinitionSet.sortNames ["b.json", "a.yml"]).map (FileTree.joinPath "d")) := rfl
    rw [listed, sorted]
    rfl
  have read : loadSettings (besideNotes second) none = .ok .standard := rfl
  have present : (besideNotes second).isDirectory "d" = true := rfl
  exact runValidate_iff read (definitionPaths_directory present found) (List.cons_ne_nil _ _)

theorem validates_iff_loads_clashing :
    (∀ second, (besideNotes second).names "d" = .ok ["b.json", "readme.txt", "a.yml"] ∧
      loadSettings (besideNotes second) none = .ok .standard) ∧
    "a.yml" ∈ ["b.json", "readme.txt", "a.yml"] ∧
    (DocumentFormat.ofPath? "a.yml").isSome = true ∧
    (∃ set, loadDefinitions (besideNotes tasks) "d" .unicode61 = .ok set ∧ set.problems = []) ∧
    ¬ ∃ set, loadDefinitions (besideNotes clashing) "d" .unicode61 = .ok set ∧
      set.problems = [] := by
  have member : "a.yml" ∈ ["b.json", "readme.txt", "a.yml"] := by decide
  have definitionFile : (DocumentFormat.ofPath? "a.yml").isSome = true := rfl
  have passes : (runValidate ["d"] none (besideNotes tasks)).failure = none := by
    rw [runValidate_besideNotes]
    decide +kernel
  have fails : (runValidate ["d"] none (besideNotes clashing)).failure ≠ none := by
    rw [Ne, runValidate_besideNotes]
    decide +kernel
  exact ⟨fun second => ⟨rfl, rfl⟩, member, definitionFile,
    (validates_iff_loads rfl member definitionFile rfl).mp passes,
    fun loads => fails ((validates_iff_loads rfl member definitionFile rfl).mpr loads)⟩

end SearchIndex.Command
