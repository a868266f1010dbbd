import SearchIndex.Json.Decode
import SearchIndex.NameMap
import SearchIndex.Text.Hex
import SearchIndex.Text.Utf8

/-!
Contract: the rows that a database gives back.

A cell of a row holds nothing, a number, a text or bytes. A row as a document has a member for each
column; bytes are written in hexadecimal digits, and a number that is not finite is null. Of two
columns with one name the later one counts.
-/

namespace SearchIndex.Database

/-- The content of a cell. The bytes of a text need not be proper UTF-8. -/
inductive Cell where
  | null
  | integer (value : Int64)
  | real (value : Float)
  | text (bytes : List UInt8)
  | blob (bytes : List UInt8)
deriving Repr

def Cell.toJson : Cell → Except Text.Malformed Json
  | .null => .ok .null
  | .integer value => .ok (.integer value.toInt)
  | .real value => .ok (if Decimal.isFinite value then .real value else .null)
  | .text bytes => (Text.Utf8.decode bytes).map .string
  | .blob bytes => .ok (.string (Text.Hex.encode bytes))

abbrev Row := NameMap Json

namespace Row

def addCell (row : Row) (cell : String × Cell) : Except Text.Malformed Row := do
  .ok (row.insert cell.1 (← cell.2.toJson))

/-- A row from its cells in order. The first cell that is no text is reported. -/
def ofCells (cells : List (String × Cell)) : Except Text.Malformed Row :=
  cells.foldlM addCell .empty

def number? (row : Row) (column : String) : Option Float :=
  match row.get? column with
  | some (.real value) => some value
  | some (.integer value) => (Json.integer value).asReal.toOption
  | _ => none

def natural? (row : Row) (column : String) : Option Nat :=
  match row.get? column with
  | some (.integer (.ofNat n)) => if n < UInt64.size then some n else none
  | _ => none

def text? (row : Row) (column : String) : Option String :=
  match row.get? column with
  | some (.string text) => some text
  | _ => none

def toJson (row : Row) : Json := .object row.entries

end Row

end SearchIndex.Database
