import SearchIndex.Proofs.Definition.Document
import SearchIndex.Proofs.DefinitionSet
import SearchIndex.Proofs.FileTree

/-!
Contract: a set of definitions is kept in a bundle.

Owns: `Bundle.withTokenizers_canonical` and `Bundle.ofJson_canonical`, by which the document of a
bundle names all tokenizers and is read as the bundle; and `ofBundle_toBundle`, by which the set is
read back from every file that holds the document.
-/

namespace SearchIndex

open Json

/-! ### Documents -/

/-- The document of a definition names its tokenizer. -/
theorem Definition.withTokenizer_canonical (definition : Definition) (kind : Tokenizer.Kind) :
    definition.toJson.canonical.withTokenizer kind = definition.toJson.canonical := by
  rw [Definition.canonical_toJson, ofFields_eq]
  refine if_pos (List.any_eq_true.mpr
    ⟨("tokenizer", definition.tokenizer.toJson.canonical), ?_, rfl⟩)
  exact List.mem_filterMap.mpr ⟨("tokenizer", some _), by simp, rfl⟩

namespace Bundle

theorem canonical_toJson (bundle : Bundle) :
    bundle.toJson.canonical = .ofFields [
      ("definitions",
        some (.array (bundle.definitions.map fun definition => definition.toJson.canonical))),
      ("generated_at", bundle.generatedAt.map .string),
      ("version", some (.string bundle.version))] := by
  rw [toJson, canonical_ofFields (by simp)]
  simp only [NameMap.sort, NameMap.put, List.map_cons, List.map_nil, List.foldr_cons, List.foldr_nil,
    String.reduceLT, String.reduceEq, ↓reduceIte, Option.map_map, Option.map_some, Function.comp_def,
    List.map_map, canonical_array, canonical_string]

theorem ofJson_canonical (bundle : Bundle) : ofJson bundle.toJson.canonical = .ok bundle := by
  rw [canonical_toJson]
  refine Record.read_ofFields ?_ (by simp) (by simp [record])
  refine .part rfl (asList_map fun definition _ => definition.ofJson_canonical) ?_
  refine .option rfl rfl (fun _ => nofun) (fun _ => rfl) ?_
  refine .part rfl rfl ?_
  exact .done

/-- There is no tokenizer to be given to the definitions of a bundle. -/
theorem withTokenizers_canonical (bundle : Bundle) (kind : Tokenizer.Kind) :
    withTokenizers bundle.toJson.canonical kind = bundle.toJson.canonical := by
  rw [canonical_toJson]
  cases bundle.generatedAt <;>
    simp [withTokenizers, ofFields, Definition.withTokenizer_canonical, Function.comp_def]

theorem reads_toJson (bundle : Bundle) : Reads 0 127 bundle.toJson := by
  refine reads_ofFields ?_
  simp only [List.forall_mem_cons, Option.forall_mem_map, forall_mem_some]
  refine ⟨reads_string _ _ _, fun text _ => reads_string _ _ text, ?_, nofun⟩
  exact reads_array (List.forall_mem_map.mpr fun definition _ => definition.reads_toJson 2 122)

/-- A bundle that is written to a JSON file is the document of the file. -/
theorem loadDocument_write {bundle : Bundle} {tree written : FileTree} {path : String}
    (json : DocumentFormat.ofPath? path = some .json)
    (success : tree.write path (FileTree.textFile bundle.toJson.pretty) = .ok written) :
    loadDocument written path = .ok bundle.toJson.canonical := by
  rw [loadDocument, FileTree.readText_write success, json]
  simp only [Except.mapError, bind, Except.bind, parse_pretty bundle.reads_toJson]

end Bundle

/-! ### Sets -/

namespace DefinitionSet

/-- Whatever kind of tokenizer is given to the definitions that name none, a set is read back from
every file that holds the document of its bundle. -/
theorem ofBundle_toBundle {set : DefinitionSet} {version : String} {generatedAt : Option String}
    {tree : FileTree} {path : String}
    (held : loadDocument tree path = .ok (set.toBundle version generatedAt).toJson.canonical)
    (kind : Tokenizer.Kind) :
    ∃ loaded, ofBundle tree path kind = .ok loaded ∧ loaded.names = set.names ∧
      ∀ name, loaded.get? name = set.get? name := by
  have bundle : Bundle.load tree path kind = .ok (set.toBundle version generatedAt) := by
    rw [Bundle.load, held]
    simp only [bind, Except.bind, Bundle.withTokenizers_canonical, Bundle.ofJson_canonical]
    rfl
  have distinct : ((set.definitions.map fun definition =>
      (⟨definition, some path⟩ : DefinitionEntry)).map fun entry => entry.definition.name).Nodup := by
    have names := set.nodup_names
    simpa [definitions, Function.comp_def] using names
  have fresh (definition : Definition) :
      (empty (.bundle path)).get? definition.name = none := rfl
  obtain ⟨loaded, inserted, found⟩ := exists_insertAll distinct fun entry _ =>
    fresh entry.definition
  have same (name : String) : loaded.get? name = set.get? name := by
    rw [found, set.get?_eq_find?]
    simp [Function.comp_def, empty, get?, NameMap.get?_empty]
  refine ⟨loaded, ?_, names_eq_of_get? same, same⟩
  rw [ofBundle, bundle]
  exact inserted

/-- A definition that cannot become an index. -/
def unusable : Definition where
  name := ""
  columns := []
  tokenizer := ⟨.porter, some .none⟩
  prefixIndex := some ⟨false, [0, 1000]⟩
  contentTable := some ""
  contentRowId := none
  unindexed := ["a", "a"]

theorem ofBundle_toBundle_unusable :
    ∃ set tree loaded, ofDefinitions [.new "no\"tes" ["body"], unusable] = .ok set ∧
      loadDocument tree "b.json" = .ok (set.toBundle "1" (some "now")).toJson.canonical ∧
      ofBundle tree "b.json" .trigram = .ok loaded ∧ loaded.names = ["", "no\"tes"] ∧
      loaded.get? "" = some unusable := by
  have made : ∃ set, ofDefinitions [.new "no\"tes" ["body"], unusable] = .ok set ∧
      set.names = ["", "no\"tes"] ∧ set.get? "" = some unusable := ⟨_, rfl, rfl, rfl⟩
  obtain ⟨set, made, names, found⟩ := made
  have kept : ∃ tree, FileTree.empty.write "b.json"
      (FileTree.textFile (set.toBundle "1" (some "now")).toJson.pretty) = .ok tree := ⟨_, rfl⟩
  obtain ⟨tree, written⟩ := kept
  have held := Bundle.loadDocument_write (by decide) written
  obtain ⟨loaded, success, sameNames, same⟩ := ofBundle_toBundle held .trigram
  exact ⟨set, tree, loaded, made, held, success, sameNames.trans names, (same "").trans found⟩

end DefinitionSet

end SearchIndex
