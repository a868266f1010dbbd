import SearchIndex.Decimal.Real
import SearchIndex.Json
import SearchIndex.Text.Hex

/-!
Contract: reading the text of a JSON document.

A step takes the text that is left and gives a value with the text after it, or stops. A stop
keeps the text that was left, from which the line and the column of the error are counted: lines
from one, columns in bytes since the last line feed. Where the offending character was only looked
at, the column counts it too. Containers nest at most 127 deep.
-/

namespace SearchIndex.Json

/-- What is wrong with a text. -/
inductive Fault where
  | endInValue
  | endInList
  | endInObject
  | endInString
  | expectedIdent
  | expectedValue
  | expectedColon
  | expectedListEnd
  | expectedObjectEnd
  | keyNotString
  | trailingComma
  | trailingText
  | controlCharacter
  | badEscape
  | badNumber
  | numberRange
  | loneSurrogate
  | unfinishedPair
  | tooDeep
deriving DecidableEq, Repr

def Fault.message : Fault → String
  | .endInValue => "EOF while parsing a value"
  | .endInList => "EOF while parsing a list"
  | .endInObject => "EOF while parsing an object"
  | .endInString => "EOF while parsing a string"
  | .expectedIdent => "expected ident"
  | .expectedValue => "expected value"
  | .expectedColon => "expected `:`"
  | .expectedListEnd => "expected `,` or `]`"
  | .expectedObjectEnd => "expected `,` or `\x7d`"
  | .keyNotString => "key must be a string"
  | .trailingComma => "trailing comma"
  | .trailingText => "trailing characters"
  | .controlCharacter => "control character (\\u0000-\\u001F) found while parsing a string"
  | .badEscape => "invalid escape"
  | .badNumber => "invalid number"
  | .numberRange => "number out of range"
  | .loneSurrogate => "lone leading surrogate in hex escape"
  | .unfinishedPair => "unexpected end of hex escape"
  | .tooDeep => "recursion limit exceeded"

/-- A fault and where it was found. -/
structure SyntaxError where
  fault : Fault
  line : Nat
  column : Nat
deriving DecidableEq, Repr

def SyntaxError.message (error : SyntaxError) : String :=
  error.fault.message ++ " at line " ++ Decimal.natural error.line ++ " column " ++
    Decimal.natural error.column

/-- A fault with the text that was left, and whether its first character is to blame. -/
structure Stop where
  fault : Fault
  left : List Char
  looked : Bool

namespace Reader

/-- Stops after the last character taken. -/
def stop {α : Type} (fault : Fault) (left : List Char) : Except Stop α :=
  .error ⟨fault, left, false⟩

/-- Stops at the next character. -/
def stopAt {α : Type} (fault : Fault) (left : List Char) : Except Stop α :=
  .error ⟨fault, left, true⟩

/-- Drops spaces, tabs and line ends. -/
def skipSpace (text : List Char) : List Char :=
  text.dropWhile fun c => c == ' ' || c == '\n' || c == '\t' || c == '\r'

/-- Takes the given characters. -/
def word : List Char → List Char → Except Stop (Unit × List Char)
  | [], text => .ok ((), text)
  | _ :: _, [] => stop .endInValue []
  | expected :: more, c :: rest =>
    if c = expected then word more rest else stop .expectedIdent rest

def fourDigits : List Char → Except Stop (Nat × List Char)
  | a :: b :: c :: d :: rest =>
    match Text.Hex.number? [a, b, c, d] with
    | some number => .ok (number, rest)
    | none => stop .badEscape rest
  | _ => stop .endInString []

/-- The character that a numeric escape writes, after its letter `u`. A high surrogate must be
followed by the escape of a low one. -/
def numericEscape (text : List Char) : Except Stop (Char × List Char) := do
  let (first, rest) ← fourDigits text
  if 0xDC00 ≤ first ∧ first ≤ 0xDFFF then stop .loneSurrogate rest
  else if 0xD800 ≤ first ∧ first ≤ 0xDBFF then
    match rest with
    | [] => stop .endInString []
    | '\\' :: [] => stop .endInString []
    | '\\' :: 'u' :: rest =>
      let (second, rest) ← fourDigits rest
      if 0xDC00 ≤ second ∧ second ≤ 0xDFFF then
        .ok (Char.ofNat (0x10000 + (first - 0xD800) * 0x400 + (second - 0xDC00)), rest)
      else stop .loneSurrogate rest
    | '\\' :: _ :: rest => stop .unfinishedPair rest
    | _ :: rest => stop .unfinishedPair rest
  else .ok (Char.ofNat first, rest)

/-- The character that an escape writes, after its backslash. -/
def escape : List Char → Except Stop (Char × List Char)
  | [] => stop .endInString []
  | 'u' :: rest => numericEscape rest
  | '"' :: rest => .ok ('"', rest)
  | '\\' :: rest => .ok ('\\', rest)
  | '/' :: rest => .ok ('/', rest)
  | 'b' :: rest => .ok ('\x08', rest)
  | 'f' :: rest => .ok ('\x0c', rest)
  | 'n' :: rest => .ok ('\n', rest)
  | 'r' :: rest => .ok ('\r', rest)
  | 't' :: rest => .ok ('\t', rest)
  | _ :: rest => stop .badEscape rest

/-- The characters up to the closing quote. The fuel is at least the length of the text. -/
def stringBody : (fuel : Nat) → List Char → Except Stop (List Char × List Char)
  | 0, _ => stop .endInString []
  | fuel + 1, text =>
    match text with
    | [] => stop .endInString []
    | '"' :: rest => .ok ([], rest)
    | '\\' :: rest => do
      let (c, rest) ← escape rest
      let (body, rest) ← stringBody fuel rest
      .ok (c :: body, rest)
    | c :: rest =>
      if c.toNat < 0x20 then stop .controlCharacter rest
      else do
        let (body, rest) ← stringBody fuel rest
        .ok (c :: body, rest)

/-- A string, after its opening quote. -/
def string (fuel : Nat) (text : List Char) : Except Stop (String × List Char) := do
  let (body, rest) ← stringBody fuel text
  .ok (String.ofList body, rest)

/-- A real with the given digits, unless it is too large. -/
def realOf (negative : Bool) (digits : Nat) (exponent : Int) (rest : List Char) :
    Except Stop (Json × List Char) :=
  let x := Decimal.nearest digits exponent
  if Decimal.isFinite x then .ok (.real (Decimal.signed negative x), rest)
  else stop .numberRange rest

/-- The exponent of a number, after its mark. -/
def exponentPart (text : List Char) : Except Stop (Int × List Char) :=
  let (negative, rest) := match text with
    | '-' :: rest => (true, rest)
    | '+' :: rest => (false, rest)
    | rest => (false, rest)
  match rest with
  | [] => stop .endInValue []
  | c :: after =>
    if c.isDigit then
      let size := Int.ofNat (Nat.ofDigitChars 10 (rest.takeWhile Char.isDigit) 0)
      .ok (if negative then -size else size, rest.dropWhile Char.isDigit)
    else stop .badNumber after

def fractionPart (negative : Bool) (whole text : List Char) :
    Except Stop (Json × List Char) := do
  let (fraction, rest) ← match text with
    | '.' :: rest =>
      match rest.takeWhile Char.isDigit, rest with
      | [], [] => stopAt .endInValue []
      | [], rest => stopAt .badNumber rest
      | digits, rest => .ok (digits, rest.dropWhile Char.isDigit)
    | rest => .ok ([], rest)
  let (exponent, rest) ← match rest with
    | 'e' :: rest => exponentPart rest
    | 'E' :: rest => exponentPart rest
    | rest => .ok (0, rest)
  realOf negative (Nat.ofDigitChars 10 (whole ++ fraction) 0) (exponent - fraction.length) rest

/-- A whole number as an integer if 64 bits hold it, and as a real otherwise. Minus zero is a
real. -/
def wholeNumber (negative : Bool) (digits rest : List Char) : Except Stop (Json × List Char) :=
  let size := Nat.ofDigitChars 10 digits 0
  if negative then
    if 0 < size ∧ size ≤ Nat.pow 2 63 then .ok (.integer (-Int.ofNat size), rest)
    else realOf true size 0 rest
  else if size < UInt64.size then .ok (.integer (Int.ofNat size), rest)
  else realOf false size 0 rest

/-- A number, after its minus sign. -/
def number (negative : Bool) (text : List Char) : Except Stop (Json × List Char) :=
  match text with
  | [] => stop .endInValue []
  | c :: after =>
    if !c.isDigit then stop .badNumber after
    else
      let whole := text.takeWhile Char.isDigit
      let rest := text.dropWhile Char.isDigit
      if c = '0' ∧ 1 < whole.length then stopAt .badNumber after
      else match rest with
        | '.' :: _ => fractionPart negative whole rest
        | 'e' :: _ => fractionPart negative whole rest
        | 'E' :: _ => fractionPart negative whole rest
        | rest => wholeNumber negative whole rest

mutual

/-- One value. The fuel is twice the length of the text; `depth` counts the containers that may
still be opened. -/
def value : (fuel depth : Nat) → List Char → Except Stop (Json × List Char)
  | 0, _, text => stopAt .tooDeep text
  | fuel + 1, depth, text =>
    match skipSpace text with
    | [] => stopAt .endInValue []
    | 'n' :: rest => (word ['u', 'l', 'l'] rest).map fun step => (.null, step.2)
    | 't' :: rest => (word ['r', 'u', 'e'] rest).map fun step => (.boolean true, step.2)
    | 'f' :: rest => (word ['a', 'l', 's', 'e'] rest).map fun step => (.boolean false, step.2)
    | '-' :: rest => number true rest
    | '"' :: rest => (string fuel rest).map fun step => (.string step.1, step.2)
    | '[' :: rest =>
      match depth with
      | 0 => stopAt .tooDeep ('[' :: rest)
      | depth + 1 => do
        let (list, rest) ← items fuel depth true rest
        .ok (.array list, rest)
    | '\x7b' :: rest =>
      match depth with
      | 0 => stopAt .tooDeep ('\x7b' :: rest)
      | depth + 1 => do
        let (list, rest) ← members fuel depth true rest
        .ok (.object list, rest)
    | c :: rest => if c.isDigit then number false (c :: rest) else stopAt .expectedValue (c :: rest)

/-- The items of a list up to its end; `first` tells whether none has been read yet. -/
def items : (fuel depth : Nat) → (first : Bool) → List Char →
    Except Stop (List Json × List Char)
  | 0, _, _, text => stopAt .tooDeep text
  | fuel + 1, depth, first, text =>
    match skipSpace text with
    | [] => stopAt .endInList []
    | ']' :: rest => .ok ([], rest)
    | c :: rest =>
      if first then do
        let (item, rest) ← value fuel depth (c :: rest)
        let (more, rest) ← items fuel depth false rest
        .ok (item :: more, rest)
      else if c = ',' then
        match skipSpace rest with
        | [] => stopAt .endInValue []
        | ']' :: rest => stopAt .trailingComma (']' :: rest)
        | rest => do
          let (item, rest) ← value fuel depth rest
          let (more, rest) ← items fuel depth false rest
          .ok (item :: more, rest)
      else stopAt .expectedListEnd (c :: rest)

/-- The members of an object up to its end; `first` tells whether none has been read yet. -/
def members : (fuel depth : Nat) → (first : Bool) → List Char →
    Except Stop (List (String × Json) × List Char)
  | 0, _, _, text => stopAt .tooDeep text
  | fuel + 1, depth, first, text =>
    match skipSpace text with
    | [] => stopAt .endInObject []
    | '\x7d' :: rest => .ok ([], rest)
    | c :: rest =>
      if first then
        if c = '"' then member fuel depth rest else stopAt .keyNotString (c :: rest)
      else if c = ',' then
        match skipSpace rest with
        | [] => stopAt .endInValue []
        | '"' :: rest => member fuel depth rest
        | '\x7d' :: rest => stopAt .trailingComma ('\x7d' :: rest)
        | rest => stopAt .keyNotString rest
      else stopAt .expectedObjectEnd (c :: rest)

/-- A member, after the opening quote of its name, and the members after it. -/
def member : (fuel depth : Nat) → List Char → Except Stop (List (String × Json) × List Char)
  | 0, _, text => stopAt .tooDeep text
  | fuel + 1, depth, text => do
    let (name, rest) ← string fuel text
    match skipSpace rest with
    | [] => stopAt .endInObject []
    | ':' :: rest =>
      let (document, rest) ← value fuel depth rest
      let (more, rest) ← members fuel depth false rest
      .ok ((name, document) :: more, rest)
    | rest => stopAt .expectedColon rest

end

/-- The line and column after some text. -/
def position (taken : List Char) : Nat × Nat :=
  let lastLine := taken.reverse.takeWhile fun c => c != '\n'
  (taken.count '\n' + 1, (String.ofList lastLine).utf8ByteSize)

def locate (text : List Char) (stopped : Stop) : SyntaxError :=
  let taken := text.take (text.length - stopped.left.length)
  match stopped.looked, stopped.left with
  | true, '\n' :: _ => ⟨stopped.fault, taken.count '\n' + 2, 0⟩
  | true, _ :: _ => ⟨stopped.fault, (position taken).1, (position taken).2 + 1⟩
  | _, _ => ⟨stopped.fault, (position taken).1, (position taken).2⟩

end Reader

/-- Reads a text that holds one document and nothing else. -/
def parse (text : String) : Except SyntaxError Json :=
  let all := text.toList
  let read : Except Stop Json := do
    let (document, rest) ← Reader.value (2 * all.length + 2) 127 all
    match Reader.skipSpace rest with
    | [] => .ok document
    | rest => Reader.stopAt .trailingText rest
  read.mapError (Reader.locate all)

end SearchIndex.Json
