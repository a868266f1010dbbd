import SearchIndex.Json.Writer
import SearchIndex.Yaml.Resolve

/-!
Contract: the YAML text of a JSON document.

Collections are written in block style, two blanks per level; a list inside a mapping stands at
the column of its key. A text is written plain where that reads back as the same text. Otherwise it
stands between single quotes, or between double quotes if it holds characters that need an escape.
A text with a line feed is a literal block if such a block can hold it.
-/

namespace SearchIndex.Yaml

namespace Writer

/-- Whether a character may be written without an escape. -/
def isPrintable (c : Char) : Bool :=
  let n := c.toNat
  n == 0x0A || (0x20 ≤ n && n ≤ 0x7E) || (0xA0 ≤ n && n ≤ 0xD7FF) ||
    (0xE000 ≤ n && n ≤ 0xFFFD && n != 0xFEFF) || 0x10000 ≤ n

/-- Whether a line break, of any kind, is at a character. -/
def isLineEnd (c : Char) : Bool :=
  isBreak c || c == '\r' || c == '\u0085'

/-- Whether two neighbouring characters of a text satisfy a test. -/
def anyNeighbours (test : Char → Char → Bool) : List Char → Bool
  | c :: d :: rest => test c d || anyNeighbours test (d :: rest)
  | _ => false

/-- Whether a text holds a colon before a gap, or a number sign after one. -/
def hasIndicator : List Char → Bool
  | [] => false
  | c :: rest =>
    (c == ':' && atGap rest) ||
      ((isSpace c || isLineEnd c) && rest.head?.any (· == '#')) || hasIndicator rest

/-- Whether a plain scalar cannot begin like this text. -/
def startsIndicator : List Char → Bool
  | [] => false
  | c :: rest =>
    "#,[]\x7b\x7d&*!|>'\"%@\x60".toList.contains c ||
      ((c == '?' || c == ':' || c == '-') && atGap rest)

/-- The texts that look like truth values to other readers. -/
def truthWords : List String :=
  ["y", "Y", "yes", "Yes", "YES", "n", "N", "no", "No", "NO", "true", "True", "TRUE", "false",
    "False", "FALSE", "on", "On", "ON", "off", "Off", "OFF"]

/-- Whether a text reads back as something else when it is written plain. -/
def isAmbiguous (text : String) : Bool :=
  truthWords.contains text || Plain.isZeroPadded text.toList ||
    match Plain.ofText text with
    | .text => false
    | _ => true

/-- Whether a text begins or ends with a blank or a line end. -/
def hasOuterSpace (text : List Char) : Bool :=
  let outer (c : Char) : Bool := c == ' ' || isLineEnd c
  text.head?.any outer || text.getLast?.any outer

def allowsPlain (text : List Char) : Bool :=
  !(hasOuterSpace text || text.any isLineEnd || text.any (fun c => !isPrintable c) ||
    startsIndicator text || hasIndicator text ||
    ['-', '-', '-'].isPrefixOf text || ['.', '.', '.'].isPrefixOf text)

def allowsSingle (text : List Char) : Bool :=
  text.all isPrintable &&
    !anyNeighbours (fun c d => (isLineEnd c && d == ' ') || (c == ' ' && isLineEnd d)) text

def allowsLiteral (text : List Char) : Bool :=
  text.all isPrintable && !text.getLast?.any (· == ' ') &&
    !anyNeighbours (fun c d => c == ' ' && isLineEnd d) text

def blanks (column : Nat) : List Char := List.replicate column ' '

/-- Text between single quotes, where the character after a line end stands at a column. -/
def singleBody (column : Nat) (afterBreak : Bool) : List Char → List Char
  | [] => if afterBreak then blanks column else []
  | c :: rest =>
    if isLineEnd c then c :: singleBody column true rest
    else
      (if afterBreak then blanks column else []) ++
        (if c == '\'' then ['\'', '\''] else [c]) ++ singleBody column false rest

/-- A number in capital hexadecimal digits, padded with zeros. -/
def capitalHex (width n : Nat) : List Char :=
  let digits := (Nat.toDigits 16 n).map Char.toUpper
  List.replicate (width - digits.length) '0' ++ digits

/-- A character between double quotes. -/
def escapeChar (c : Char) : List Char :=
  match c with
  | '\x00' => ['\\', '0']
  | '\x07' => ['\\', 'a']
  | '\x08' => ['\\', 'b']
  | '\t' => ['\\', 't']
  | '\n' => ['\\', 'n']
  | '\x0b' => ['\\', 'v']
  | '\x0c' => ['\\', 'f']
  | '\r' => ['\\', 'r']
  | '\x1b' => ['\\', 'e']
  | '"' => ['\\', '"']
  | '\\' => ['\\', '\\']
  | '\u0085' => ['\\', 'N']
  | '\u2028' => ['\\', 'L']
  | '\u2029' => ['\\', 'P']
  | c =>
    if isPrintable c then [c]
    else if c.toNat ≤ 0xFF then ['\\', 'x'] ++ capitalHex 2 c.toNat
    else if c.toNat ≤ 0xFFFF then ['\\', 'u'] ++ capitalHex 4 c.toNat
    else ['\\', 'U'] ++ capitalHex 8 c.toNat

/-- The marks after the sign of a literal block: its indentation where the text begins with a
blank or a line end, and what becomes of the line ends after it. -/
def literalMarks (text : List Char) : List Char :=
  (if text.head?.any (fun c => c == ' ' || isLineEnd c) then ['2'] else []) ++
    match text.reverse with
    | [] => ['-']
    | [c] => if isLineEnd c then ['+'] else ['-']
    | c :: d :: _ => if !isLineEnd c then ['-'] else if isLineEnd d then ['+'] else []

def literalBody (column : Nat) (afterBreak : Bool) : List Char → List Char
  | [] => []
  | c :: rest =>
    if isLineEnd c then c :: literalBody column true rest
    else (if afterBreak then blanks column else []) ++ c :: literalBody column false rest

/-- A literal block. Its last line end is left to what follows. -/
def literal (column : Nat) (text : List Char) : List Char :=
  ['|'] ++ literalMarks text ++ ['\n'] ++ literalBody column true text

def scalar (column : Nat) (text : String) : List Char :=
  let chars := text.toList
  let double := ['"'] ++ chars.flatMap escapeChar ++ ['"']
  let single :=
    if allowsSingle chars then ['\''] ++ singleBody column false chars ++ ['\''] else double
  if chars.contains '\n' ∧ !truthWords.contains text then
    if allowsLiteral chars then literal column chars else double
  else if isAmbiguous text then single
  else if allowsPlain chars then chars
  else single

/-- Reals: the names of those that are not finite, and digits as in other documents. -/
def realFormat : Decimal.RealFormat :=
  { Json.realFormat with undefined := ".nan", infinite := ".inf" }

/-- A document that is no collection with parts. -/
def leaf (column : Nat) : Json → List Char
  | .null => "null".toList
  | .boolean true => "true".toList
  | .boolean false => "false".toList
  | .integer n => (Decimal.integer n).toList
  | .real x => (realFormat.render x).toList
  | .string text => scalar column text
  | .array _ => ['[', ']']
  | .object _ => ['\x7b', '\x7d']

def endLine (text : List Char) : List Char :=
  match text.getLast? with
  | some c => if isLineEnd c then text else text ++ ['\n']
  | none => ['\n']

mutual

/-- The lines of an item of a list, whose parts stand at a column. The first line has its
indentation already. -/
def itemLines (column : Nat) : Json → List Char
  | .array (item :: rest) => ['-', ' '] ++ itemLines (column + 2) item ++ listLines column rest
  | .object ((name, value) :: rest) =>
    scalar column name ++ [':'] ++ valueLines column value ++ mappingLines column rest
  | document => endLine (leaf column document)

def listLines (column : Nat) : List Json → List Char
  | [] => []
  | item :: rest =>
    blanks column ++ ['-', ' '] ++ itemLines (column + 2) item ++ listLines column rest

def mappingLines (column : Nat) : List (String × Json) → List Char
  | [] => []
  | (name, value) :: rest =>
    blanks column ++ scalar column name ++ [':'] ++ valueLines column value ++
      mappingLines column rest

/-- What follows the colon of a key that stands at a column. -/
def valueLines (column : Nat) : Json → List Char
  | .array (item :: rest) =>
    ['\n'] ++ blanks column ++ ['-', ' '] ++ itemLines (column + 2) item ++
      listLines column rest
  | .object ((name, value) :: rest) =>
    ['\n'] ++ blanks (column + 2) ++ scalar (column + 2) name ++ [':'] ++
      valueLines (column + 2) value ++ mappingLines (column + 2) rest
  | document => [' '] ++ endLine (leaf (column + 2) document)

end

end Writer

/-- The YAML text of a document. -/
def render (document : Json) : String :=
  String.ofList <| match document with
    | .array (_ :: _) | .object (_ :: _) => Writer.itemLines 0 document
    | document => Writer.endLine (Writer.leaf 2 document)

end SearchIndex.Yaml
