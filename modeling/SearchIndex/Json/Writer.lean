import SearchIndex.Decimal.Real
import SearchIndex.Json

/-!
Contract: the text of a JSON document.

`compact` writes no blanks. `pretty` gives each item and member a line of its own, indented by two
blanks per level, and writes empty containers without a break. Reals are written with their
shortest digits; the ones that are not finite are written as null.
-/

namespace SearchIndex.Json

/-- Reals in documents: whole numbers keep `.0`, and the point moves between the fifth zero after
it and the sixteenth digit before it without an exponent. -/
def realFormat : Decimal.RealFormat where
  tie := .even
  positional := some (-4, 16)
  keepPoint := true
  undefined := "null"
  infinite := "null"

namespace Writer

/-- One character inside a string. -/
def escapeChar (c : Char) : List Char :=
  match c with
  | '"' => ['\\', '"']
  | '\\' => ['\\', '\\']
  | '\x08' => ['\\', 'b']
  | '\x0c' => ['\\', 'f']
  | '\n' => ['\\', 'n']
  | '\r' => ['\\', 'r']
  | '\t' => ['\\', 't']
  | c =>
    if c.toNat < 0x20 then
      ['\\', 'u', '0', '0', Nat.digitChar (c.toNat / 16), Nat.digitChar (c.toNat % 16)]
    else [c]

def quoted (text : String) : String :=
  String.ofList ('"' :: text.toList.flatMap escapeChar ++ ['"'])

/-- A real number; null if it is not finite. -/
def realText (x : Float) : String :=
  if Decimal.isFinite x then realFormat.render x else "null"

mutual

/-- A document without blanks. -/
def compactText : Json → String
  | .null => "null"
  | .boolean true => "true"
  | .boolean false => "false"
  | .integer n => Decimal.integer n
  | .real x => realText x
  | .string text => quoted text
  | .array items => "[" ++ compactItems items ++ "]"
  | .object members => "\x7b" ++ compactMembers members ++ "\x7d"

/-- Items between commas. -/
def compactItems : List Json → String
  | [] => ""
  | [item] => compactText item
  | item :: rest => compactText item ++ "," ++ compactItems rest

/-- Members between commas. -/
def compactMembers : List (String × Json) → String
  | [] => ""
  | [(name, value)] => quoted name ++ ":" ++ compactText value
  | (name, value) :: rest =>
    quoted name ++ ":" ++ compactText value ++ "," ++ compactMembers rest

end

def lineAt (level : Nat) : String :=
  String.ofList ('\n' :: List.replicate (2 * level) ' ')

mutual

/-- A document on lines of its own, whose parts stand at the given level. -/
def prettyText (level : Nat) : Json → String
  | .array [] => "[]"
  | .array items => "[" ++ prettyItems (level + 1) items ++ lineAt level ++ "]"
  | .object [] => "\x7b\x7d"
  | .object members => "\x7b" ++ prettyMembers (level + 1) members ++ lineAt level ++ "\x7d"
  | document => compactText document

def prettyItems (level : Nat) : List Json → String
  | [] => ""
  | [item] => lineAt level ++ prettyText level item
  | item :: rest => lineAt level ++ prettyText level item ++ "," ++ prettyItems level rest

def prettyMembers (level : Nat) : List (String × Json) → String
  | [] => ""
  | [(name, value)] => lineAt level ++ quoted name ++ ": " ++ prettyText level value
  | (name, value) :: rest =>
    lineAt level ++ quoted name ++ ": " ++ prettyText level value ++ "," ++
      prettyMembers level rest

end

end Writer

def compact (document : Json) : String := Writer.compactText document

def pretty (document : Json) : String := Writer.prettyText 0 document

end SearchIndex.Json
