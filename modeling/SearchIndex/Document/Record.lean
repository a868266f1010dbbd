import SearchIndex.Document.Mismatch

/-!
Contract: reading a record from a document.

A record has named fields in a fixed order. A document may give them by name in any order, where
unknown names are passed over, or as a list in the fixed order. Fields are read in the order of
the document, so the first bad one is reported; a field that is required and absent is reported
after all others are read. Each field updates a draft, which starts from the defaults.
-/

namespace SearchIndex

/-- The parts of a document that stands for a record. -/
inductive Shape (ν : Type) where
  | named (members : List (String × ν))
  | positional (items : List ν)

/-- The notations that records are read from. -/
class Readable (ν : Type) where
  /-- The parts of a record of the given name. -/
  shape : String → ν → Except Mismatch (Shape ν)
  text : ν → Except Mismatch String
  /-- A natural number of at most 32 bits. -/
  word : ν → Except Mismatch UInt32
  real : ν → Except Mismatch Float
  /-- A truth value. -/
  boolean : ν → Except Mismatch Bool
  /-- One of the given names. -/
  variant : List String → ν → Except Mismatch String

/-- One field of a record: its name, whether it must be present, and how it enters the draft. -/
structure Field (ν δ : Type) where
  name : String
  required : Bool
  read : δ → ν → Except Mismatch δ

/-- A record: its name, its fields in order, and the draft it starts from. -/
structure Record (ν δ : Type) where
  name : String
  fields : List (Field ν δ)
  start : δ

namespace Record

variable {ν δ : Type}

/-- Reads members that are given by name. `seen` holds the names read so far. -/
def readNamed (fields : List (Field ν δ)) (seen : List String) (draft : δ) :
    List (String × ν) → Except Mismatch δ
  | [] =>
    match fields.find? fun field => field.required && !seen.contains field.name with
    | some field => .error (.missingField field.name)
    | none => .ok draft
  | (name, value) :: rest =>
    match fields.find? fun field => field.name == name with
    | none => readNamed fields seen draft rest
    | some field =>
      if seen.contains name then .error (.duplicateField name)
      else do
        let draft ← field.read draft value
        readNamed fields (name :: seen) draft rest

def readPositional (expected : String) (index : Nat) (draft : δ) :
    List (Field ν δ) → List ν → Except Mismatch δ
  | [], [] => .ok draft
  | [], extra => .error (.invalidLength (index + extra.length) "fewer elements in array")
  | field :: fields, [] =>
    if field.required then .error (.invalidLength index expected)
    else readPositional expected (index + 1) draft fields []
  | field :: fields, item :: items => do
    let draft ← field.read draft item
    readPositional expected (index + 1) draft fields items

def title (record : Record ν δ) : String := "struct " ++ record.name

def sizedTitle (record : Record ν δ) : String :=
  record.title ++ " with " ++ Decimal.natural record.fields.length ++
    if record.fields.length = 1 then " element" else " elements"

/-- Reads a record from the parts of a document. -/
def ofShape (record : Record ν δ) : Shape ν → Except Mismatch δ
  | .named members => readNamed record.fields [] record.start members
  | .positional items =>
    readPositional record.sizedTitle 0 record.start record.fields items

def read [Readable ν] (record : Record ν δ) (document : ν) : Except Mismatch δ :=
  (Readable.shape record.title document).bind record.ofShape

end Record

end SearchIndex
