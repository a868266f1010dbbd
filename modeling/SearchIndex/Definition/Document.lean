import SearchIndex.Definition.Validity
import SearchIndex.Json.Decode

/-!
Contract: definitions as JSON documents.

Writing leaves out what is absent and lists that may be empty and are. Reading takes a record by
name or by position, and an absent part for its default. A kind of tokenizer that is not known is
reported in the words of the check of definitions.
-/

namespace SearchIndex

open Json

namespace Tokenizer

def Kind.ofJson (document : Json) : Except Mismatch Kind := do
  let name ← document.asString
  match Kind.parse name with
  | .ok kind => .ok kind
  | .error fault => .error (.refused fault.message)

def Parameters.record : Record Json Parameters where
  name := "TokenizerParameters"
  start := .none
  fields := [
    ⟨"remove_diacritics", false, fun draft document => do
      .ok { draft with removeDiacritics := ← document.asOption asByte }⟩,
    ⟨"categories", false, fun draft document => do
      .ok { draft with categories := ← document.asOption asString }⟩,
    ⟨"tokenchars", false, fun draft document => do
      .ok { draft with tokenChars := ← document.asOption asString }⟩,
    ⟨"separators", false, fun draft document => do
      .ok { draft with separators := ← document.asOption asString }⟩,
    ⟨"case_sensitive", false, fun draft document => do
      .ok { draft with caseSensitive := ← document.asOption asByte }⟩]

def Parameters.ofJson : Json → Except Mismatch Parameters := Parameters.record.read

def Parameters.toJson (parameters : Parameters) : Json :=
  .ofFields [
    ("remove_diacritics", parameters.removeDiacritics.map fun n => .natural n.toNat),
    ("categories", parameters.categories.map .string),
    ("tokenchars", parameters.tokenChars.map .string),
    ("separators", parameters.separators.map .string),
    ("case_sensitive", parameters.caseSensitive.map fun n => .natural n.toNat)]

def record : Record Json Tokenizer where
  name := "TokenizerConfig"
  start := .standard
  fields := [
    ⟨"type", true, fun draft document => do
      .ok { draft with kind := ← Kind.ofJson document }⟩,
    ⟨"parameters", false, fun draft document => do
      .ok { draft with parameters := ← document.asOption Parameters.ofJson }⟩]

def ofJson : Json → Except Mismatch Tokenizer := record.read

def toJson (tokenizer : Tokenizer) : Json :=
  .ofFields [
    ("type", some (.string tokenizer.kind.name)),
    ("parameters", tokenizer.parameters.map Parameters.toJson)]

end Tokenizer

namespace PrefixIndex

/-- The record of an index over beginnings of terms. -/
def record : Record Json PrefixIndex where
  name := "PrefixIndexConfig"
  start := ⟨false, []⟩
  fields := [
    ⟨"enabled", true, fun draft document => do
      .ok { draft with enabled := ← document.asBoolean }⟩,
    ⟨"lengths", false, fun draft document => do
      .ok { draft with lengths := ← document.asList asWord }⟩]

def ofJson : Json → Except Mismatch PrefixIndex := record.read

def toJson (index : PrefixIndex) : Json :=
  .ofFields [
    ("enabled", some (.boolean index.enabled)),
    ("lengths",
      if index.lengths.isEmpty then none
      else some (.array (index.lengths.map fun n => .natural n.toNat)))]

end PrefixIndex

namespace Definition

def record : Record Json Definition where
  name := "TableDefinition"
  start := .new "" []
  fields := [
    ⟨"tableName", true, fun draft document => do
      .ok { draft with name := ← document.asString }⟩,
    ⟨"columns", true, fun draft document => do
      .ok { draft with columns := ← document.asList asString }⟩,
    ⟨"tokenizer", false, fun draft document => do
      .ok { draft with tokenizer := ← Tokenizer.ofJson document }⟩,
    ⟨"prefixIndex", false, fun draft document => do
      .ok { draft with prefixIndex := ← document.asOption PrefixIndex.ofJson }⟩,
    ⟨"contentTable", false, fun draft document => do
      .ok { draft with contentTable := ← document.asOption asString }⟩,
    ⟨"contentRowId", false, fun draft document => do
      .ok { draft with contentRowId := ← document.asOption asString }⟩,
    ⟨"unindexed", false, fun draft document => do
      .ok { draft with unindexed := ← document.asList asString }⟩]

def ofJson : Json → Except Mismatch Definition := record.read

def toJson (definition : Definition) : Json :=
  .ofFields [
    ("tableName", some (.string definition.name)),
    ("columns", some (.strings definition.columns)),
    ("tokenizer", some definition.tokenizer.toJson),
    ("prefixIndex", definition.prefixIndex.map PrefixIndex.toJson),
    ("contentTable", definition.contentTable.map .string),
    ("contentRowId", definition.contentRowId.map .string),
    ("unindexed",
      if definition.unindexed.isEmpty then none else some (.strings definition.unindexed))]

namespace Recovered

def record : Record Json Recovered where
  name := "PartialTableDefinition"
  start := .unknown
  fields := [
    ⟨"tableName", false, fun draft document => do
      .ok { draft with name := ← document.asOption asString }⟩,
    ⟨"columns", false, fun draft document => do
      .ok { draft with columns := ← document.asOption (asList asString) }⟩,
    ⟨"tokenizer", false, fun draft document => do
      .ok { draft with tokenizer := ← document.asOption Tokenizer.ofJson }⟩,
    ⟨"prefixIndex", false, fun draft document => do
      .ok { draft with prefixIndex := ← document.asOption PrefixIndex.ofJson }⟩,
    ⟨"contentTable", false, fun draft document => do
      .ok { draft with contentTable := ← document.asOption asString }⟩,
    ⟨"contentRowId", false, fun draft document => do
      .ok { draft with contentRowId := ← document.asOption asString }⟩,
    ⟨"unindexed", false, fun draft document => do
      .ok { draft with unindexed := ← document.asOption (asList asString) }⟩]

def ofJson : Json → Except Mismatch Recovered := record.read

def toJson (recovered : Recovered) : Json :=
  .ofFields [
    ("tableName", recovered.name.map .string),
    ("columns", recovered.columns.map .strings),
    ("tokenizer", recovered.tokenizer.map Tokenizer.toJson),
    ("prefixIndex", recovered.prefixIndex.map PrefixIndex.toJson),
    ("contentTable", recovered.contentTable.map .string),
    ("contentRowId", recovered.contentRowId.map .string),
    ("unindexed", recovered.unindexed.map .strings)]

end Recovered

end Definition

end SearchIndex
