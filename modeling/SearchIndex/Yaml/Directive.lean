import SearchIndex.Yaml.Tag

/-!
Contract: the directives that may stand before a YAML document.

`%YAML` gives the version of the notation and `%TAG` gives a handle its meaning. A document has at
most one version, which is 1.1 or 1.2, and at most one meaning for each handle; no other directive
is known.
-/

namespace SearchIndex.Yaml

/-- A line before a document that says how to read it. -/
inductive Directive where
  | version (major minor : Nat)
  | handle (name : String) (meaning : List UInt8)
deriving DecidableEq, Repr

namespace Directive

/-- Reads a part of a version, which has at most nine digits. -/
def takeNumber (text : List Char) : Except String (Nat × List Char) :=
  let digits := text.takeWhile Char.isDigit
  if digits.isEmpty then .error "did not find expected version number"
  else if 9 < digits.length then .error "found extremely long version number"
  else
    let number := digits.foldl (fun number c => number * 10 + (c.toNat - '0'.toNat)) 0
    .ok (number, text.drop digits.length)

/-- Reads what follows the name of a directive that gives the version. -/
def takeVersion (text : List Char) : Except String (Directive × List Char) := do
  let (major, rest) ← takeNumber (text.dropWhile isSpace)
  match rest with
  | '.' :: rest =>
    let (minor, rest) ← takeNumber rest
    .ok (.version major minor, rest)
  | _ => .error "did not find expected digit or '.' character"

/-- Reads what follows the name of a directive that gives a handle its meaning. -/
def takeHandle (text : List Char) : Except String (Directive × List Char) :=
  match text.dropWhile isSpace with
  | '!' :: text => do
    let name := text.takeWhile isNameChar
    let (written, rest) ← match text.drop name.length with
      | '!' :: rest => .ok ('!' :: name ++ ['!'], rest)
      | rest => if name.isEmpty then .ok (['!'], rest) else .error "did not find expected '!'"
    if rest.head?.any isSpace then
      let (meaning, rest) ← WrittenTag.takeSomeOctets true (rest.dropWhile isSpace)
      if atGap rest then .ok (.handle (String.ofList written) meaning, rest)
      else .error "did not find expected whitespace or line break"
    else .error "did not find expected whitespace"
  | _ => .error "did not find expected '!'"

/-- Reads the line that follows a percent sign. Blanks and a comment may end it. -/
def ofLine (line : List Char) : Except String Directive := do
  let name := line.takeWhile isNameChar
  let rest := line.drop name.length
  let (directive, rest) ←
    if name.isEmpty then .error "could not find expected directive name"
    else if !atGap rest then .error "found unexpected non-alphabetical character"
    else if name = "YAML".toList then takeVersion rest
    else if name = "TAG".toList then takeHandle rest
    else .error "found unknown directive name"
  match rest.dropWhile isSpace with
  | [] => .ok directive
  | '#' :: _ => .ok directive
  | _ => .error "did not find expected comment or line break"

/-- The handles of a document after its directives, with what is wrong with the first bad one.
`versioned` tells whether a version has been given. -/
def handlesOf (versioned : Bool) (handles : Handles) :
    List (Directive × Mark) → Except Fault Handles
  | [] => .ok (handles ++ Handles.standard)
  | (.version major minor, mark) :: rest =>
    if versioned then failAt "found duplicate %YAML directive" mark
    else if major = 1 ∧ (minor = 1 ∨ minor = 2) then handlesOf true handles rest
    else failAt "found incompatible YAML document" mark
  | (.handle name meaning, mark) :: rest =>
    if handles.any fun handle => handle.1 == name then
      failAt "found duplicate %TAG directive" mark
    else handlesOf versioned (handles ++ [(name, meaning)]) rest

end Directive

end SearchIndex.Yaml
