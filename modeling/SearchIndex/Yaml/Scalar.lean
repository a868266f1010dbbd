import SearchIndex.Text.Hex
import SearchIndex.Yaml.Mark

/-!
Contract: the texts that YAML scalars write.

Plain, quoted and block scalars may run over several lines. Between two lines of a plain or quoted
scalar a single line end becomes a blank, and of several line ends the first is dropped. A literal
block keeps its line ends; a folded block treats them like a quoted scalar, except around lines
that begin with a blank. The marks after a block's sign say what becomes of the line ends after
its last line.
-/

namespace SearchIndex.Yaml

/-- How a scalar is written. -/
inductive ScalarStyle where
  | plain
  | quoted
  | literal
  | folded
deriving DecidableEq, Repr

/-- A scalar that is partly read: its characters in reverse, and the gap after them. -/
structure Folding where
  /-- The characters so far, last first. -/
  taken : List Char
  /-- The blanks after them on the same line, last first. -/
  spaces : List Char
  /-- Whether a line has ended in the gap. -/
  broken : Bool
  /-- The first line end of the gap. -/
  firstBreak : List Char
  /-- The further line ends of the gap, last first. -/
  moreBreaks : List Char

namespace Folding

/-- Nothing read. -/
def start : Folding := ⟨[], [], false, [], []⟩

/-- Adds a blank to the gap. Blanks before the first character of a line are not kept. -/
def addSpace (folding : Folding) (c : Char) : Folding :=
  if folding.broken then folding else { folding with spaces := c :: folding.spaces }

/-- Adds a line end to the gap. -/
def addBreak (folding : Folding) (c : Char) : Folding :=
  if folding.broken then { folding with moreBreaks := c :: folding.moreBreaks }
  else { folding with spaces := [], broken := true, firstBreak := [c] }

/-- Replaces the gap by what it stands for. -/
def close (folding : Folding) : Folding :=
  let gap :=
    if !folding.broken then folding.spaces
    else if folding.firstBreak = ['\n'] then
      if folding.moreBreaks.isEmpty then [' '] else folding.moreBreaks
    else folding.moreBreaks ++ folding.firstBreak
  ⟨gap ++ folding.taken, [], false, [], []⟩

/-- Adds a character after the gap. -/
def add (folding : Folding) (c : Char) : Folding :=
  let closed := folding.close
  { closed with taken := c :: closed.taken }

/-- The text so far. -/
def text (folding : Folding) : String :=
  String.ofList folding.taken.reverse

end Folding

/-- A scalar's text with the place and the text after it. -/
structure Scanned where
  text : String
  broken : Bool
  mark : Mark
  rest : List Char

/-- Characters that end a plain scalar inside brackets. -/
def isFlowSign (c : Char) : Bool :=
  c == ',' || c == '[' || c == ']' || c == '\x7b' || c == '\x7d'

/-- Reads a plain scalar. `indent` is the least column of its lines, `fresh` tells whether a gap
has just been read. -/
def plainFrom (inFlow : Bool) (indent : Nat) (began : Mark) :
    (folding : Folding) → (fresh : Bool) → Mark → List Char → Except Fault Scanned
  | folding, _, mark, [] => .ok ⟨folding.text, folding.broken, mark, []⟩
  | folding, fresh, mark, c :: rest =>
    let finished := .ok ⟨folding.text, folding.broken, mark, c :: rest⟩
    if isSpace c then
      if folding.broken ∧ mark.column < indent ∧ c = '\t' then
        failIn "while scanning a plain scalar" began
          "found a tab character that violates indentation" mark
      else plainFrom inFlow indent began (folding.addSpace c) true (mark.skip 1) rest
    else if isBreak c then
      plainFrom inFlow indent began (folding.addBreak c) true mark.nextLine rest
    else if fresh && ((!inFlow && mark.column < indent) ||
        (mark.column == 0 && atMarker (c :: rest)) || c == '#') then finished
    else if inFlow && c == ':' && rest.head?.any (fun d => isFlowSign d || d == '?') then
      failIn "while scanning a plain scalar" began "found unexpected ':'" mark
    else if (c == ':' && atGap rest) || (inFlow && isFlowSign c) then finished
    else plainFrom inFlow indent began (folding.add c) false (mark.skip 1) rest

/-- The character that a letter after a backslash stands for. -/
def escapeOf? (c : Char) : Option Char :=
  match c with
  | '0' => some '\x00'
  | 'a' => some '\x07'
  | 'b' => some '\x08'
  | 't' => some '\t'
  | '\t' => some '\t'
  | 'n' => some '\n'
  | 'v' => some '\x0b'
  | 'f' => some '\x0c'
  | 'r' => some '\r'
  | 'e' => some '\x1b'
  | ' ' => some ' '
  | '"' => some '"'
  | '/' => some '/'
  | '\\' => some '\\'
  | 'N' => some '\u0085'
  | '_' => some '\u00a0'
  | 'L' => some '\u2028'
  | 'P' => some '\u2029'
  | _ => none

/-- How many hexadecimal digits follow a letter after a backslash. -/
def escapeLength? (c : Char) : Option Nat :=
  match c with
  | 'x' => some 2
  | 'u' => some 4
  | 'U' => some 8
  | _ => none

/-- The phrase for a quoted scalar that is being read. -/
def quotedContext : String := "while scanning a quoted scalar"

/-- Reads a quoted scalar after its opening quote. The fuel is the length of the text. -/
def quotedFrom (double : Bool) (began : Mark) :
    (fuel : Nat) → Folding → Mark → List Char → Except Fault Scanned
  | 0, _, mark, _ => failIn quotedContext began "found unexpected end of stream" mark
  | _ + 1, _, mark, [] => failIn quotedContext began "found unexpected end of stream" mark
  | fuel + 1, folding, mark, c :: rest =>
    if mark.column == 0 && atMarker (c :: rest) then
      failIn quotedContext began "found unexpected document indicator" mark
    else if isSpace c then quotedFrom double began fuel (folding.addSpace c) (mark.skip 1) rest
    else if isBreak c then quotedFrom double began fuel (folding.addBreak c) mark.nextLine rest
    else if double then
      match c, rest with
      | '"', rest => .ok ⟨folding.close.text, false, mark.skip 1, rest⟩
      | '\\', [] =>
        failIn "while parsing a quoted scalar" began "found unknown escape character" mark
      | '\\', d :: rest =>
        if isBreak d then
          let closed := folding.close
          quotedFrom double began fuel { closed with broken := true }
            (mark.skip 1).nextLine rest
        else match escapeOf? d, escapeLength? d with
          | some e, _ => quotedFrom double began fuel (folding.add e) (mark.skip 2) rest
          | none, some length =>
            let digits := rest.take length
            match Text.Hex.number? digits with
            | none =>
              failIn "while parsing a quoted scalar" began
                "did not find expected hexdecimal number" (mark.skip 2)
            | some number =>
              if digits.length < length then
                failIn "while parsing a quoted scalar" began
                  "did not find expected hexdecimal number" (mark.skip 2)
              else if (0xD800 ≤ number ∧ number ≤ 0xDFFF) ∨ 0x10FFFF < number then
                failIn "while parsing a quoted scalar" began
                  "found invalid Unicode character escape code" (mark.skip 2)
              else
                quotedFrom double began fuel (folding.add (Char.ofNat number))
                  (mark.skip (2 + length)) (rest.drop length)
          | none, none =>
            failIn "while parsing a quoted scalar" began "found unknown escape character" mark
      | c, rest => quotedFrom double began fuel (folding.add c) (mark.skip 1) rest
    else
      match c, rest with
      | '\'', '\'' :: rest => quotedFrom double began fuel (folding.add '\'') (mark.skip 2) rest
      | '\'', rest => .ok ⟨folding.close.text, false, mark.skip 1, rest⟩
      | c, rest => quotedFrom double began fuel (folding.add c) (mark.skip 1) rest

/-- What becomes of the line ends after the last line of a block. -/
inductive Chomping where
  | strip
  | clip
  | keep
deriving DecidableEq, Repr

/-- The blank lines, and the blanks of the next line, that stand before a block's line. -/
structure LeadIn where
  widest : Nat
  breaks : List Char
  mark : Mark
  rest : List Char

/-- The phrase for a block scalar that is being read. -/
def blockContext : String := "while scanning a block scalar"

/-- Skips blank lines and indentation; an `indent` of zero is not known yet. -/
def leadInFrom (began : Mark) (indent widest : Nat) (breaks : List Char) (mark : Mark) :
    List Char → Except Fault LeadIn
  | [] => .ok ⟨max widest mark.column, breaks, mark, []⟩
  | c :: rest =>
    let inside := indent == 0 || mark.column < indent
    if c == ' ' && inside then leadInFrom began indent widest breaks (mark.skip 1) rest
    else if c == '\t' && inside then
      failIn blockContext began
        "found a tab character where an indentation space is expected" mark
    else if isBreak c then
      leadInFrom began indent (max widest mark.column) (c :: breaks) mark.nextLine rest
    else .ok ⟨max widest mark.column, breaks, mark, c :: rest⟩

/-- A block that is partly read: its characters in reverse, the end of its last line, the blank
lines after it, and whether that line began with a blank. -/
structure Block where
  taken : List Char
  lineEnd : List Char
  blankLines : List Char
  indented : Bool

/-- Reads the lines of a block. The fuel is the length of the text. -/
def blockLines (literal : Bool) (began : Mark) (indent : Nat) :
    (fuel : Nat) → Block → Mark → List Char → Except Fault (Block × Mark × List Char)
  | 0, block, mark, rest => .ok (block, mark, rest)
  | fuel + 1, block, mark, rest =>
    match rest with
    | [] => .ok (block, mark, [])
    | c :: _ =>
      if mark.column ≠ indent then .ok (block, mark, rest)
      else do
        let folded := !literal && block.lineEnd == ['\n'] && !block.indented && !isSpace c
        let joint :=
          if folded then (if block.blankLines.isEmpty then [' '] else [])
          else block.lineEnd
        let line := rest.takeWhile fun d => !isBreak d
        let taken := line.reverse ++ block.blankLines ++ joint ++ block.taken
        let mark := mark.skip line.length
        match rest.drop line.length with
        | [] => .ok (⟨taken, [], [], isSpace c⟩, mark, [])
        | lineEnd :: rest =>
          let lead ← leadInFrom began indent 0 [] mark.nextLine rest
          blockLines literal began indent fuel ⟨taken, [lineEnd], lead.breaks, isSpace c⟩
            lead.mark lead.rest

/-- The marks after a block's sign: what becomes of its last line ends, and its indentation. -/
def blockMarks (began mark : Mark) (text : List Char) :
    Except Fault (Chomping × Nat × Mark × List Char) :=
  let chomping? (c : Char) : Option Chomping :=
    if c = '+' then some .keep else if c = '-' then some .strip else none
  let zero {α : Type} (mark : Mark) : Except Fault α :=
    failIn blockContext began "found an indentation indicator equal to 0" mark
  match text with
  | [] => .ok (.clip, 0, mark, [])
  | c :: rest =>
    match chomping? c with
    | some chomping =>
      match rest with
      | d :: rest =>
        if d = '0' then zero (mark.skip 1)
        else if d.isDigit then .ok (chomping, d.toNat - '0'.toNat, mark.skip 2, rest)
        else .ok (chomping, 0, mark.skip 1, d :: rest)
      | [] => .ok (chomping, 0, mark.skip 1, [])
    | none =>
      if c = '0' then zero mark
      else if c.isDigit then
        let size := c.toNat - '0'.toNat
        match rest with
        | d :: rest =>
          match chomping? d with
          | some chomping => .ok (chomping, size, mark.skip 2, rest)
          | none => .ok (.clip, size, mark.skip 1, d :: rest)
        | [] => .ok (.clip, size, mark.skip 1, [])
      else .ok (.clip, 0, mark, text)

/-- Reads a block scalar after its sign, inside a collection of the given indentation. -/
def blockFrom (literal : Bool) (parent : Int) (began mark : Mark) (text : List Char) :
    Except Fault Scanned := do
  let (chomping, size, mark, rest) ← blockMarks began mark text
  let spaces := rest.takeWhile isSpace
  let mark := mark.skip spaces.length
  let rest := rest.drop spaces.length
  let comment := match rest with
    | '#' :: _ => rest.takeWhile fun c => !isBreak c
    | _ => []
  let mark := mark.skip comment.length
  let (mark, rest) ← match rest.drop comment.length with
    | [] => .ok (mark, [])
    | c :: rest =>
      if isBreak c then .ok (mark.nextLine, rest)
      else failIn blockContext began "did not find expected comment or line break" mark
  let explicit := if size = 0 then 0 else (max parent 0).toNat + size
  let lead ← leadInFrom began explicit 0 [] mark rest
  let indent := if explicit = 0 then max lead.widest (max (parent + 1).toNat 1) else explicit
  let (block, mark, rest) ←
    blockLines literal began indent (lead.rest.length + 1) ⟨[], [], lead.breaks, false⟩
      lead.mark lead.rest
  let ending := match chomping with
    | .strip => []
    | .clip => block.lineEnd
    | .keep => block.blankLines ++ block.lineEnd
  .ok ⟨String.ofList (ending ++ block.taken).reverse, true, mark, rest⟩

end SearchIndex.Yaml
