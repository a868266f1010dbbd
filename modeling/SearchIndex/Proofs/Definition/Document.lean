import SearchIndex.Definition.Document
import SearchIndex.Proofs.Json.Record
import SearchIndex.Proofs.Json.RoundTrip

/-!
Contract: definitions are read from their canonical documents.

Owns: for the parameters of a tokenizer, tokenizers, indexes over beginnings of terms and
definitions, the members of the canonical document in their order, that what is read from it is what
was written, and that the document is read back from its text.
-/

namespace SearchIndex

open Json

/-! ### Tokenizers -/

namespace Tokenizer

theorem Parameters.canonical_toJson (parameters : Parameters) :
    parameters.toJson.canonical = .ofFields [
      ("case_sensitive", parameters.caseSensitive.map fun n => .natural n.toNat),
      ("categories", parameters.categories.map .string),
      ("remove_diacritics", parameters.removeDiacritics.map fun n => .natural n.toNat),
      ("separators", parameters.separators.map .string),
      ("tokenchars", parameters.tokenChars.map .string)] := by
  rw [toJson, canonical_ofFields (by simp)]
  simp only [NameMap.sort, NameMap.put, List.map_cons, List.map_nil, List.foldr_cons, List.foldr_nil,
    String.reduceLT, String.reduceEq, ↓reduceIte, Option.map_map, Function.comp_def,
    canonical_natural, canonical_string]

theorem Parameters.ofJson_canonical (parameters : Parameters) :
    Parameters.ofJson parameters.toJson.canonical = .ok parameters := by
  rw [canonical_toJson]
  refine Record.read_ofFields ?_ (by simp) (by simp [record])
  refine .option rfl rfl (fun _ => nofun) asByte_natural ?_
  refine .option rfl rfl (fun _ => nofun) (fun _ => rfl) ?_
  refine .option rfl rfl (fun _ => nofun) asByte_natural ?_
  refine .option rfl rfl (fun _ => nofun) (fun _ => rfl) ?_
  refine .option rfl rfl (fun _ => nofun) (fun _ => rfl) ?_
  exact .done

theorem Parameters.reads_toJson (level depth : Nat) (parameters : Parameters) :
    Reads level (depth + 1) parameters.toJson := by
  refine reads_ofFields ?_
  simp only [List.forall_mem_cons, Option.forall_mem_map]
  exact ⟨fun n _ => reads_byte _ _ n, fun text _ => reads_string _ _ text,
    fun text _ => reads_string _ _ text, fun text _ => reads_string _ _ text,
    fun n _ => reads_byte _ _ n, nofun⟩

theorem Kind.ofJson_string (kind : Kind) : Kind.ofJson (.string kind.name) = .ok kind := by
  cases kind <;> rfl

theorem canonical_toJson (tokenizer : Tokenizer) :
    tokenizer.toJson.canonical = .ofFields [
      ("parameters", tokenizer.parameters.map fun parameters => parameters.toJson.canonical),
      ("type", some (.string tokenizer.kind.name))] := by
  rw [toJson, canonical_ofFields (by simp)]
  simp only [NameMap.sort, NameMap.put, List.map_cons, List.map_nil, List.foldr_cons, List.foldr_nil,
    String.reduceLT, String.reduceEq, ↓reduceIte, Option.map_map, Option.map_some, Function.comp_def,
    canonical_string]

theorem ofJson_canonical (tokenizer : Tokenizer) :
    ofJson tokenizer.toJson.canonical = .ok tokenizer := by
  rw [canonical_toJson]
  refine Record.read_ofFields ?_ (by simp) (by simp [record])
  refine .option rfl rfl (fun _ => nofun) Parameters.ofJson_canonical ?_
  refine .part rfl (Kind.ofJson_string tokenizer.kind) ?_
  exact .done

theorem reads_toJson (level depth : Nat) (tokenizer : Tokenizer) :
    Reads level (depth + 2) tokenizer.toJson := by
  refine reads_ofFields ?_
  simp only [List.forall_mem_cons, Option.forall_mem_map, forall_mem_some]
  exact ⟨reads_string _ _ _, fun parameters _ => parameters.reads_toJson _ _, nofun⟩

end Tokenizer

/-! ### Indexes over beginnings of terms -/

namespace PrefixIndex

theorem canonical_toJson (index : PrefixIndex) :
    index.toJson.canonical = .ofFields [
      ("enabled", some (.boolean index.enabled)),
      ("lengths",
        if index.lengths.isEmpty then none
        else some (.array (index.lengths.map fun n => .natural n.toNat)))] := by
  rw [toJson, canonical_ofFields (by simp)]
  simp only [NameMap.sort, NameMap.put, List.map_cons, List.map_nil, List.foldr_cons, List.foldr_nil,
    String.reduceLT, ↓reduceIte, Option.map_some, map_canonical_unless, List.map_map,
    Function.comp_def, canonical_array, canonical_boolean, canonical_natural]

theorem ofJson_canonical (index : PrefixIndex) :
    ofJson index.toJson.canonical = .ok index := by
  rw [canonical_toJson]
  refine Record.read_ofFields ?_ (by simp) (by simp [record])
  refine .part rfl rfl ?_
  refine .list rfl rfl (asList_map fun n _ => asWord_natural n) ?_
  exact .done

theorem reads_toJson (level depth : Nat) (index : PrefixIndex) :
    Reads level (depth + 2) index.toJson := by
  refine reads_ofFields ?_
  simp only [List.forall_mem_cons, forall_mem_some, Option.mem_ite_none_left, and_imp]
  refine ⟨reads_boolean _ _ _, ?_, nofun⟩
  rintro _ - ⟨⟩
  exact reads_array (List.forall_mem_map.mpr fun n _ => reads_word _ _ n)

end PrefixIndex

/-! ### Definitions -/

namespace Definition

theorem canonical_toJson (definition : Definition) :
    definition.toJson.canonical = .ofFields [
      ("columns", some (.strings definition.columns)),
      ("contentRowId", definition.contentRowId.map .string),
      ("contentTable", definition.contentTable.map .string),
      ("prefixIndex", definition.prefixIndex.map fun index => index.toJson.canonical),
      ("tableName", some (.string definition.name)),
      ("tokenizer", some definition.tokenizer.toJson.canonical),
      ("unindexed",
        if definition.unindexed.isEmpty then none
        else some (.strings definition.unindexed))] := by
  rw [toJson, canonical_ofFields (by simp)]
  simp only [NameMap.sort, NameMap.put, List.map_cons, List.map_nil, List.foldr_cons, List.foldr_nil,
    String.reduceLT, String.reduceEq, ↓reduceIte, Option.map_map, Option.map_some,
    map_canonical_unless, Function.comp_def, canonical_string, canonical_strings]

/-- What is read from the document of a definition is the definition. -/
theorem ofJson_canonical (definition : Definition) :
    ofJson definition.toJson.canonical = .ok definition := by
  rw [canonical_toJson]
  refine Record.read_ofFields ?_ (by simp) (by simp [record])
  refine .part rfl (asList_strings definition.columns) ?_
  refine .option rfl rfl (fun _ => nofun) (fun _ => rfl) ?_
  refine .option rfl rfl (fun _ => nofun) (fun _ => rfl) ?_
  refine .option rfl rfl (fun _ => nofun) PrefixIndex.ofJson_canonical ?_
  refine .part rfl rfl ?_
  refine .part rfl (Tokenizer.ofJson_canonical definition.tokenizer) ?_
  refine .list rfl rfl (asList_strings definition.unindexed) ?_
  exact .done

theorem reads_toJson (level depth : Nat) (definition : Definition) :
    Reads level (depth + 3) definition.toJson := by
  refine reads_ofFields ?_
  simp only [List.forall_mem_cons, Option.forall_mem_map, forall_mem_some, Option.mem_ite_none_left,
    and_imp]
  refine ⟨reads_string _ _ _, reads_strings _ _ _, definition.tokenizer.reads_toJson _ _,
    fun index _ => index.reads_toJson _ _, fun text _ => reads_string _ _ text,
    fun text _ => reads_string _ _ text, ?_, nofun⟩
  rintro _ - ⟨⟩
  exact reads_strings _ _ _

end Definition

end SearchIndex
