import SearchIndex.Yaml.Directive
import SearchIndex.Yaml.Scalar

/-!
Contract: the tokens of a YAML text.

Indentation is turned into tokens that open and close block collections. A scalar that may turn
out to be a key is remembered with its place among the tokens; when its colon is found on the same
line, a key token, and if the indentation grows the start of a mapping, are put before it.
-/

namespace SearchIndex.Yaml

/-- A token. The end of a block collection, and entries and keys, carry no text of their own. -/
inductive Token where
  | streamEnd
  | directive (directive : Directive)
  | documentStart
  | documentEnd
  | blockSequence
  | blockMapping
  | blockEnd
  | flowSequence
  | flowSequenceEnd
  | flowMapping
  | flowMappingEnd
  | blockEntry
  | flowEntry
  | key
  | value
  | alias (name : String)
  | anchor (name : String)
  | tag (tag : WrittenTag)
  | scalar (text : String) (style : ScalarStyle)
deriving DecidableEq, Repr, Inhabited

abbrev PlacedToken := Token × Mark

/-- A scalar or collection that may turn out to be a key: whether a colon must follow, how many
tokens stand before it, and where it begins. -/
structure KeyCandidate where
  required : Bool
  position : Nat
  mark : Mark

/-- A text that is partly read. `keys` has one place for the block level and one for each open
bracket, the innermost first. `indents` are the columns of the open block collections. -/
structure Lexer where
  rest : List Char
  mark : Mark
  tokens : Array PlacedToken
  keys : List (Option KeyCandidate)
  keyAllowed : Bool
  indents : List Nat

namespace Lexer

/-- The lexer at the start of a text. A byte order mark is skipped but takes a column. -/
def start (text : List Char) : Lexer :=
  match text with
  | '\ufeff' :: rest => ⟨rest, Mark.start.skip 1, #[], [none], true, []⟩
  | text => ⟨text, .start, #[], [none], true, []⟩

/-- Whether a bracket is open. -/
def inFlow (lexer : Lexer) : Bool := 1 < lexer.keys.length

/-- The column of the innermost block collection, or -1. -/
def indent (lexer : Lexer) : Int :=
  match lexer.indents with
  | column :: _ => Int.ofNat column
  | [] => -1

/-- Adds a token that begins here. -/
def emit (lexer : Lexer) (token : Token) : Lexer :=
  { lexer with tokens := lexer.tokens.push (token, lexer.mark) }

/-- Moves over characters of the same line. -/
def advance (lexer : Lexer) (count : Nat) : Lexer :=
  { lexer with rest := lexer.rest.drop count, mark := lexer.mark.skip count }

/-- The complaint about a key without its colon. -/
def missingColon {α : Type} (key : KeyCandidate) (place : Mark) : Except Fault α :=
  failIn "while scanning a simple key" key.mark "could not find expected ':'" place

def dropKey (lexer : Lexer) : Except Fault Lexer :=
  match lexer.keys with
  | some key :: others =>
    if key.required then missingColon key lexer.mark
    else .ok { lexer with keys := none :: others }
  | _ => .ok lexer

/-- Remembers that a key may begin here. -/
def saveKey (lexer : Lexer) : Except Fault Lexer :=
  if lexer.keyAllowed then do
    let required := !lexer.inFlow && lexer.indent == Int.ofNat lexer.mark.column
    let lexer ← lexer.dropKey
    .ok { lexer with keys := some ⟨required, lexer.tokens.size, lexer.mark⟩ :: lexer.keys.drop 1 }
  else .ok lexer

/-- Whether a candidate is too far back for a colon here to belong to it. -/
def KeyCandidate.isStale (key : KeyCandidate) (mark : Mark) : Bool :=
  key.mark.line < mark.line || key.mark.index + 1024 < mark.index

/-- Drops the candidates that are too far back. -/
def dropStale (mark : Mark) :
    List (Option KeyCandidate) → Except Fault (List (Option KeyCandidate))
  | [] => .ok []
  | none :: rest => (dropStale mark rest).map (none :: ·)
  | some key :: rest => do
    let rest ← dropStale mark rest
    if KeyCandidate.isStale key mark then
      if key.required then missingColon key mark else .ok (none :: rest)
    else .ok (some key :: rest)

/-- Opens a block collection if the column is beyond the innermost one. Its token is put at the
given place among the tokens. -/
def roll (lexer : Lexer) (column position : Nat) (token : Token) (mark : Mark) : Lexer :=
  if lexer.inFlow then lexer
  else if lexer.indent < Int.ofNat column then
    { lexer with
      indents := column :: lexer.indents
      tokens := (lexer.tokens.toList.insertIdx position (token, mark)).toArray }
  else lexer

/-- Closes the block collections whose column is beyond the given one. -/
def unroll (lexer : Lexer) (column : Int) : Lexer :=
  if lexer.inFlow then lexer
  else
    let closed := lexer.indents.takeWhile fun indent => column < Int.ofNat indent
    { lexer with
      indents := lexer.indents.drop closed.length
      tokens := lexer.tokens ++ (closed.map fun _ => (Token.blockEnd, lexer.mark)).toArray }

/-- Skips blanks, comments and line ends. A line end outside brackets allows a key; a tab is
skipped only where no key is allowed. -/
def gapFrom (inFlow : Bool) (keyAllowed inComment : Bool) (mark : Mark) :
    List Char → Bool × Mark × List Char
  | [] => (keyAllowed, mark, [])
  | c :: rest =>
    if isBreak c then gapFrom inFlow (keyAllowed || !inFlow) false mark.nextLine rest
    else if inComment then gapFrom inFlow keyAllowed true (mark.skip 1) rest
    else if c == ' ' || (c == '\t' && (inFlow || !keyAllowed)) then
      gapFrom inFlow keyAllowed false (mark.skip 1) rest
    else if c == '#' then gapFrom inFlow keyAllowed true (mark.skip 1) rest
    else (keyAllowed, mark, c :: rest)

/-- Moves to the next token. -/
def skipGap (lexer : Lexer) : Lexer :=
  let (keyAllowed, mark, rest) :=
    gapFrom lexer.inFlow lexer.keyAllowed false lexer.mark lexer.rest
  { lexer with keyAllowed := keyAllowed, mark := mark, rest := rest }

/-- Ends the text: closes all block collections. -/
def finish (lexer : Lexer) : Except Fault Lexer := do
  let mark :=
    if lexer.mark.column = 0 then lexer.mark
    else ⟨lexer.mark.index, lexer.mark.line + 1, 0⟩
  let lexer ← ({ lexer with mark := mark }.unroll (-1)).dropKey
  .ok ({ lexer with keyAllowed := false }.emit .streamEnd)

def marker (lexer : Lexer) (token : Token) : Except Fault Lexer := do
  let lexer ← (lexer.unroll (-1)).dropKey
  .ok (({ lexer with keyAllowed := false }.emit token).advance 3)

def directiveLine (lexer : Lexer) : Except Fault Lexer := do
  let lexer ← (lexer.unroll (-1)).dropKey
  let line := lexer.rest.takeWhile fun c => !isBreak c
  match Directive.ofLine (line.drop 1) with
  | .error problem => failIn "while scanning a directive" lexer.mark problem lexer.mark
  | .ok directive =>
    let lexer := { lexer with keyAllowed := false }.emit (.directive directive)
    let lexer := lexer.advance line.length
    match lexer.rest with
    | [] => .ok lexer
    | _ :: rest => .ok { lexer with rest := rest, mark := lexer.mark.nextLine }

/-- An opening bracket. -/
def openFlow (lexer : Lexer) (token : Token) : Except Fault Lexer := do
  let lexer ← lexer.saveKey
  .ok (({ lexer with keys := none :: lexer.keys, keyAllowed := true }.emit token).advance 1)

/-- A closing bracket. -/
def closeFlow (lexer : Lexer) (token : Token) : Except Fault Lexer := do
  let lexer ← lexer.dropKey
  let keys := if lexer.inFlow then lexer.keys.drop 1 else lexer.keys
  .ok (({ lexer with keys := keys, keyAllowed := false }.emit token).advance 1)

/-- A comma between brackets. -/
def flowComma (lexer : Lexer) : Except Fault Lexer := do
  let lexer ← lexer.dropKey
  .ok (({ lexer with keyAllowed := true }.emit .flowEntry).advance 1)

/-- The dash of a block sequence. -/
def dash (lexer : Lexer) : Except Fault Lexer := do
  let lexer ←
    if lexer.inFlow then .ok lexer
    else if lexer.keyAllowed then
      .ok (lexer.roll lexer.mark.column lexer.tokens.size .blockSequence lexer.mark)
    else failAt "block sequence entries are not allowed in this context" lexer.mark
  let lexer ← lexer.dropKey
  .ok (({ lexer with keyAllowed := true }.emit .blockEntry).advance 1)

/-- The question mark of a key. -/
def question (lexer : Lexer) : Except Fault Lexer := do
  let lexer ←
    if lexer.inFlow then .ok lexer
    else if lexer.keyAllowed then
      .ok (lexer.roll lexer.mark.column lexer.tokens.size .blockMapping lexer.mark)
    else failAt "mapping keys are not allowed in this context" lexer.mark
  let lexer ← lexer.dropKey
  .ok (({ lexer with keyAllowed := !lexer.inFlow }.emit .key).advance 1)

/-- The colon of a value. If a key candidate is open it becomes the key. -/
def colon (lexer : Lexer) : Except Fault Lexer := do
  let lexer ← match lexer.keys with
    | some key :: others =>
      let tokens := (lexer.tokens.toList.insertIdx key.position (Token.key, key.mark)).toArray
      let lexer := { lexer with tokens := tokens, keys := none :: others, keyAllowed := false }
      .ok (lexer.roll key.mark.column key.position .blockMapping key.mark)
    | _ =>
      if lexer.inFlow then .ok { lexer with keyAllowed := false }
      else if lexer.keyAllowed then
        .ok { lexer.roll lexer.mark.column lexer.tokens.size .blockMapping lexer.mark with
          keyAllowed := true }
      else failAt "mapping values are not allowed in this context" lexer.mark
  .ok ((lexer.emit .value).advance 1)

def atNameEnd (text : List Char) : Bool :=
  atGap text || text.head?.any fun c => "?:,]\x7d%@\x60".toList.contains c

/-- An anchor or an alias. -/
def name (lexer : Lexer) (context : String) (token : String → Token) : Except Fault Lexer := do
  let lexer ← lexer.saveKey
  let text := (lexer.rest.drop 1).takeWhile isNameChar
  let ended := { lexer with keyAllowed := false }.advance (1 + text.length)
  if text.isEmpty || !atNameEnd ended.rest then
    failIn context lexer.mark "did not find expected alphabetic or numeric character" ended.mark
  else
    .ok { ended with
      tokens := ended.tokens.push (token (String.ofList text), lexer.mark) }

/-- A tag. A gap must follow it, or a comma between brackets. -/
def tagged (lexer : Lexer) : Except Fault Lexer := do
  let lexer ← lexer.saveKey
  let fail (problem : String) : Except Fault Lexer :=
    failIn "while scanning a tag" lexer.mark problem lexer.mark
  match WrittenTag.ofText (lexer.rest.drop 1) with
  | .error problem => fail problem
  | .ok (tag, rest) =>
    if atGap rest || (lexer.inFlow && rest.head? = some ',') then
      let length := lexer.rest.length - rest.length
      .ok (({ lexer with keyAllowed := false }.emit (.tag tag)).advance length)
    else fail "did not find expected whitespace or line break"

/-- A scalar that began at `mark`. -/
def addScalar (lexer : Lexer) (mark : Mark) (style : ScalarStyle) (keyAllowed : Bool)
    (scanned : Scanned) : Lexer :=
  { lexer with
    rest := scanned.rest
    mark := scanned.mark
    keyAllowed := keyAllowed
    tokens := lexer.tokens.push (.scalar scanned.text style, mark) }

def block (lexer : Lexer) (literal : Bool) : Except Fault Lexer := do
  let lexer ← lexer.dropKey
  let scanned ←
    blockFrom literal lexer.indent lexer.mark (lexer.mark.skip 1) (lexer.rest.drop 1)
  .ok (lexer.addScalar lexer.mark (if literal then .literal else .folded) true scanned)

def quoted (lexer : Lexer) (double : Bool) : Except Fault Lexer := do
  let lexer ← lexer.saveKey
  let scanned ←
    quotedFrom double lexer.mark (lexer.rest.length + 1) .start (lexer.mark.skip 1)
      (lexer.rest.drop 1)
  .ok (lexer.addScalar lexer.mark .quoted false scanned)

def plain (lexer : Lexer) : Except Fault Lexer := do
  let lexer ← lexer.saveKey
  let scanned ←
    plainFrom lexer.inFlow (lexer.indent + 1).toNat lexer.mark .start false lexer.mark lexer.rest
  .ok (lexer.addScalar lexer.mark .plain scanned.broken scanned)

/-- Whether a plain scalar may begin with a character that stands before the given text. -/
def startsPlain (inFlow : Bool) (c : Char) (rest : List Char) : Bool :=
  if c == '-' then !rest.head?.any isSpace
  else if c == '?' || c == ':' then !inFlow && !atGap rest
  else !isSpace c && !("-?:,[]\x7b\x7d#&*!|>'\"%@\x60".toList.contains c)

/-- Reads the next token, after a gap. -/
def token (lexer : Lexer) : Except Fault Lexer :=
  match lexer.rest with
  | [] => lexer.finish
  | c :: rest =>
    let column := lexer.mark.column
    if column == 0 && c == '%' then lexer.directiveLine
    else if column == 0 && c == '-' && atMarker lexer.rest then lexer.marker .documentStart
    else if column == 0 && c == '.' && atMarker lexer.rest then lexer.marker .documentEnd
    else if c == '[' then lexer.openFlow .flowSequence
    else if c == '\x7b' then lexer.openFlow .flowMapping
    else if c == ']' then lexer.closeFlow .flowSequenceEnd
    else if c == '\x7d' then lexer.closeFlow .flowMappingEnd
    else if c == ',' then lexer.flowComma
    else if c == '-' && atGap rest then lexer.dash
    else if c == '?' && (lexer.inFlow || atGap rest) then lexer.question
    else if c == ':' && (lexer.inFlow || atGap rest) then lexer.colon
    else if c == '*' then lexer.name "while scanning an alias" .alias
    else if c == '&' then lexer.name "while scanning an anchor" .anchor
    else if c == '!' then lexer.tagged
    else if c == '|' && !lexer.inFlow then lexer.block true
    else if c == '>' && !lexer.inFlow then lexer.block false
    else if c == '\'' then lexer.quoted false
    else if c == '"' then lexer.quoted true
    else if startsPlain lexer.inFlow c rest then lexer.plain
    else failIn "while scanning for the next token" lexer.mark
      "found character that cannot start any token" lexer.mark

/-- Reads all tokens. The fuel is more than the length of the text. -/
def run : (fuel : Nat) → Lexer → Except Fault Lexer
  | 0, lexer => lexer.finish
  | fuel + 1, lexer =>
    if lexer.tokens.back?.any fun last => last.1 == .streamEnd then .ok lexer
    else do
      let lexer := lexer.skipGap
      let keys ← dropStale lexer.mark lexer.keys
      let lexer := { lexer with keys := keys }.unroll (Int.ofNat lexer.mark.column)
      let lexer ← lexer.token
      run fuel lexer

end Lexer

def tokensOf (text : String) : Except Fault (List PlacedToken) :=
  match text.toList.findIdx? fun c => !isAllowed c with
  | some index =>
    .error ⟨"control characters are not allowed at position " ++ Decimal.natural index, none, none⟩
  | none =>
    let all := normalizeBreaks text.toList
    (Lexer.run (all.length + 2) (Lexer.start all)).map fun lexer => lexer.tokens.toList

end SearchIndex.Yaml
