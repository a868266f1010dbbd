import SearchIndex.Database.Catalog
import SearchIndex.Json.Reader
import SearchIndex.Json.Writer
import SearchIndex.Text.Utf8

/-!
Contract: catalogs as files.

A catalog is kept as a JSON document with the statements of its tables and the tables that its
triggers watch. A file that is no such document holds no catalog.
-/

namespace SearchIndex.Database.Catalog

def textsToJson (texts : NameMap String) : Json :=
  .object (texts.entries.map fun entry => (entry.1, .string entry.2))

def textOfMember? : String × Json → Option (String × String)
  | (name, .string text) => some (name, text)
  | _ => none

/-- The named texts of a document. -/
def textsOfJson? : Json → Option (NameMap String)
  | .object members => (members.mapM textOfMember?).map NameMap.ofList
  | _ => none

def toJson (catalog : Catalog) : Json :=
  .object [
    ("tables", textsToJson catalog.tables),
    ("triggers", textsToJson catalog.triggers)]

def ofJson? (document : Json) : Option Catalog := do
  let tables ← (document.member? "tables").bind textsOfJson?
  let triggers ← (document.member? "triggers").bind textsOfJson?
  some ⟨tables, triggers⟩

def toBytes (catalog : Catalog) : List UInt8 := Text.Utf8.encode catalog.toJson.pretty

/-- The catalog that a file keeps. -/
def ofBytes? (bytes : List UInt8) : Option Catalog :=
  match Text.Utf8.decode bytes with
  | .error _ => none
  | .ok text =>
    match Json.parse text with
    | .error _ => none
    | .ok document => ofJson? document

end SearchIndex.Database.Catalog
