import SearchIndex.Decimal.Integer

/-!
Contract: places in a YAML text, its line breaks, and faults that point at places.

A text is read with every spelling of a line end turned into a line feed. The line and paragraph
separators also end a line and stay as they are.
-/

namespace SearchIndex.Yaml

/-- A place: characters since the start, lines since the start, characters since the line began. -/
structure Mark where
  index : Nat
  line : Nat
  column : Nat
deriving DecidableEq, Repr, Inhabited

def Mark.start : Mark := ⟨0, 0, 0⟩

/-- The place after `count` characters of the same line. -/
def Mark.skip (mark : Mark) (count : Nat) : Mark :=
  ⟨mark.index + count, mark.line, mark.column + count⟩

/-- The place after a line end. -/
def Mark.nextLine (mark : Mark) : Mark := ⟨mark.index + 1, mark.line + 1, 0⟩

/-- A place in words, counted from one. -/
def Mark.message (mark : Mark) : String :=
  if mark.line = 0 ∧ mark.column = 0 then "position " ++ Decimal.natural mark.index
  else "line " ++ Decimal.natural (mark.line + 1) ++ " column " ++
    Decimal.natural (mark.column + 1)

/-- What is wrong, where, and what was being read. -/
structure Fault where
  problem : String
  place : Option Mark
  context : Option (String × Mark)
deriving Repr

def Fault.message (fault : Fault) : String :=
  let place := match fault.place with
    | some mark => if mark.line = 0 ∧ mark.column = 0 then "" else " at " ++ mark.message
    | none => ""
  let context := match fault.context with
    | some (context, mark) =>
      ", " ++ context ++ if fault.place = some mark then "" else " at " ++ mark.message
    | none => ""
  fault.problem ++ place ++ context

/-- Stops at a place while something that began at another is read. -/
def failIn {α : Type} (context : String) (began : Mark) (problem : String) (place : Mark) :
    Except Fault α :=
  .error ⟨problem, some place, some (context, began)⟩

def failAt {α : Type} (problem : String) (place : Mark) : Except Fault α :=
  .error ⟨problem, some place, none⟩

/-- Whether a character ends a line. -/
def isBreak (c : Char) : Bool :=
  c == '\n' || c == '\u2028' || c == '\u2029'

/-- A blank or a tab. -/
def isSpace (c : Char) : Bool :=
  c == ' ' || c == '\t'

/-- Whether a text is at its end, at a line end, or at a blank. -/
def atGap : List Char → Bool
  | [] => true
  | c :: _ => isSpace c || isBreak c

/-- Turns every spelling of a line end into a line feed. -/
def normalizeBreaks : List Char → List Char
  | [] => []
  | '\r' :: '\n' :: rest => '\n' :: normalizeBreaks rest
  | '\r' :: rest => '\n' :: normalizeBreaks rest
  | '\u0085' :: rest => '\n' :: normalizeBreaks rest
  | c :: rest => c :: normalizeBreaks rest

/-- Whether a character may stand in a text. -/
def isAllowed (c : Char) : Bool :=
  let n := c.toNat
  n == 9 || n == 10 || n == 13 || (0x20 ≤ n && n ≤ 0x7E) || n == 0x85 ||
    (0xA0 ≤ n && n ≤ 0xFFFD) || 0x10000 ≤ n

/-- Whether a text begins with a document marker. -/
def atMarker : List Char → Bool
  | '-' :: '-' :: '-' :: rest => atGap rest
  | '.' :: '.' :: '.' :: rest => atGap rest
  | _ => false

end SearchIndex.Yaml
