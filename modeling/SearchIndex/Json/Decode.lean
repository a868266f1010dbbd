import SearchIndex.Document.Record
import SearchIndex.Json

/-!
Contract: reading values from JSON documents.

Every reader accepts one kind of document and reports what it found otherwise. Integers out of
range are of the right type but have a bad value. Optional values are absent when the document is
null. A variant without content is a string, or an object whose one member has that name and null.
-/

namespace SearchIndex.Json

/-- A document as messages name it. -/
def found : Json → Found
  | .null => .null
  | .boolean value => .boolean value
  | .integer value => .integer value
  | .real value => .real value
  | .string value => .string value
  | .array _ => .sequence
  | .object _ => .map

def wrongType {α : Type} (document : Json) (expected : String) : Except Mismatch α :=
  .error (.invalidType document.found expected)

/-- A text. -/
def asString : Json → Except Mismatch String
  | .string text => .ok text
  | document => document.wrongType "a string"

/-- A truth value. -/
def asBoolean : Json → Except Mismatch Bool
  | .boolean value => .ok value
  | document => document.wrongType "a boolean"

/-- An integer from `low` up to, and not including, `high`. -/
def asInteger (low high : Int) (expected : String) : Json → Except Mismatch Int
  | .integer n =>
    if low ≤ n ∧ n < high then .ok n else .error (.invalidValue (.integer n) expected)
  | document => document.wrongType expected

/-- A natural number of at most 8 bits. -/
def asByte (document : Json) : Except Mismatch UInt8 :=
  (asInteger 0 UInt8.size "u8" document).map fun n => UInt8.ofNat n.toNat

/-- A natural number of at most 32 bits. -/
def asWord (document : Json) : Except Mismatch UInt32 :=
  (asInteger 0 UInt32.size "u32" document).map fun n => UInt32.ofNat n.toNat

/-- An integer of at most 64 bits with its sign. -/
def asLong (document : Json) : Except Mismatch Int64 :=
  (asInteger (-Nat.pow 2 63) (Nat.pow 2 63) "i64" document).map Int64.ofInt

/-- A real number; integers are rounded to one. -/
def asReal : Json → Except Mismatch Float
  | .real x => .ok x
  | .integer n => .ok (Decimal.signed (n < 0) (Decimal.nearest n.natAbs 0))
  | document => document.wrongType "f64"

def asList {α : Type} (readItem : Json → Except Mismatch α) : Json → Except Mismatch (List α)
  | .array items => items.mapM readItem
  | document => document.wrongType "a sequence"

def asOption {α : Type} (readValue : Json → Except Mismatch α) :
    Json → Except Mismatch (Option α)
  | .null => .ok none
  | document => (readValue document).map some

/-- The parts of a record. -/
def asShape (expected : String) : Json → Except Mismatch (Shape Json)
  | .object members => .ok (.named members)
  | .array items => .ok (.positional items)
  | document => document.wrongType expected

/-- The name of a variant and its content, if it has one. -/
def asTagged : Json → Except Mismatch (String × Option Json)
  | .string name => .ok (name, none)
  | .object [(name, content)] => .ok (name, some content)
  | .object _ => .error (.invalidValue .map "map with a single key")
  | document => document.wrongType "string or map"

/-- Checks that a variant has no content. -/
def noContent : Option Json → Except Mismatch Unit
  | none => .ok ()
  | some .null => .ok ()
  | some document => document.wrongType "unit"

def withContent {α : Type} (readContent : Json → Except Mismatch α) :
    Option Json → Except Mismatch α
  | some document => readContent document
  | none => .error (.invalidType .plainVariant "newtype variant")

/-- One of the given names, as a variant without content. -/
def asVariant (known : List String) (document : Json) : Except Mismatch String := do
  let (name, content) ← document.asTagged
  if known.contains name then do
    noContent content
    .ok name
  else .error (.unknownVariant name known)

instance : Readable Json where
  shape := asShape
  text := asString
  word := asWord
  real := asReal
  boolean := asBoolean
  variant := asVariant

end SearchIndex.Json
