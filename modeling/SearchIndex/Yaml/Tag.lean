import SearchIndex.Text.Hex
import SearchIndex.Text.Utf8
import SearchIndex.Yaml.Mark

/-!
Contract: the tags of YAML nodes, as they are written and as they are meant.

A written tag is a handle and a suffix. The handle stands for octets that the document gives it,
and the suffix follows them; a tag between angle brackets has no handle. The tags of the core
schema name a kind of scalar, a tag that begins with an exclamation mark names a variant, and no
other tag says anything.
-/

namespace SearchIndex.Yaml

/-- Whether a character may stand in the name of an anchor, a handle or a directive. -/
def isNameChar (c : Char) : Bool :=
  c.isAlphanum || c == '_' || c == '-'

/-- What a tag says of a node. `bare` is the exclamation mark alone. -/
inductive Tag where
  | null
  | boolean
  | integer
  | real
  | bare
  | variant (name : String)
  | other
deriving DecidableEq, Repr

namespace Tag

def coreSpace : String := "tag:yaml.org,2002:"

/-- The tags of the core schema that name a kind of scalar other than text. -/
def core : List (String × Tag) :=
  [(coreSpace ++ "null", .null), (coreSpace ++ "bool", .boolean), (coreSpace ++ "int", .integer),
    (coreSpace ++ "float", .real)]

/-- What octets mean as a tag. A variant without a readable name is no tag. -/
def ofOctets? (octets : List UInt8) : Option Tag :=
  match Text.Utf8.decode octets with
  | .error _ => if octets.head? = some (UInt8.ofNat '!'.toNat) then none else some .other
  | .ok text =>
    match text.toList with
    | ['!'] => some .bare
    | '!' :: name => some (.variant (String.ofList name))
    | _ => some ((core.lookup text).getD .other)

def variant? : Tag → Option String
  | .bare => some "!"
  | .variant name => some name
  | _ => none

end Tag

abbrev Handles := List (String × List UInt8)

/-- The handles that every document has unless it gives them another meaning. -/
def Handles.standard : Handles :=
  [("!", Text.Utf8.encode "!"), ("!!", Text.Utf8.encode Tag.coreSpace)]

/-- A tag as it is written. A tag that is written in full has the empty handle. -/
structure WrittenTag where
  handle : String
  suffix : List UInt8
deriving DecidableEq, Repr

namespace WrittenTag

def octets? (handles : Handles) (tag : WrittenTag) : Option (List UInt8) :=
  if tag.handle = "" then some tag.suffix
  else (handles.lookup tag.handle).map fun meaning => meaning ++ tag.suffix

/-! ### Reading -/

/-- Whether a character may stand in a tag. One in full may also hold commas and brackets. -/
def isTagChar (inFull : Bool) (c : Char) : Bool :=
  isNameChar c || ";/?:@&=+$.!~*'()%".toList.contains c || (inFull && ",[]".toList.contains c)

/-- How many octets follow the one that opens a character. -/
def tailLength? (octet : Nat) : Option Nat :=
  if octet < 0x80 then some 0
  else if octet < 0xC0 then none
  else if octet < 0xE0 then some 1
  else if octet < 0xF0 then some 2
  else if octet < 0xF8 then some 3
  else none

/-- The octets that characters write. A percent sign and two digits of base 16 write one octet;
while `due` octets of a character are missing, no character may stand for itself. -/
def octetsOf : (due : Nat) → List Char → Except String (List UInt8)
  | due, '%' :: high :: low :: rest =>
    match Text.Hex.number? [high, low] with
    | none => .error "did not find URI escaped octet"
    | some octet =>
      match due with
      | 0 =>
        match tailLength? octet with
        | none => .error "found an incorrect leading UTF-8 octet"
        | some due => (octetsOf due rest).map (UInt8.ofNat octet :: ·)
      | due + 1 =>
        if Text.Utf8.isTail octet then (octetsOf due rest).map (UInt8.ofNat octet :: ·)
        else .error "found an incorrect trailing UTF-8 octet"
  | 0, '%' :: _ => .error "did not find URI escaped octet"
  | 0, c :: rest => (octetsOf 0 rest).map (UInt8.ofNat c.toNat :: ·)
  | 0, [] => .ok []
  | _ + 1, _ => .error "did not find URI escaped octet"

/-- Reads the octets that a text begins with, up to an octet of zero, and gives what follows. -/
def takeOctets (inFull : Bool) (text : List Char) : Except String (List UInt8 × List Char) := do
  let run := text.takeWhile (isTagChar inFull)
  let octets ← octetsOf 0 run
  .ok (octets.takeWhile fun octet => octet != 0, text.drop run.length)

/-- Reads octets, at least one of which must be written. -/
def takeSomeOctets (inFull : Bool) (text : List Char) :
    Except String (List UInt8 × List Char) :=
  if text.head?.any (isTagChar inFull) then takeOctets inFull text
  else .error "did not find expected tag URI"

/-- Reads the tag that follows an exclamation mark. -/
def ofText (text : List Char) : Except String (WrittenTag × List Char) :=
  let name := text.takeWhile isNameChar
  match text, text.drop name.length with
  | '<' :: rest, _ => do
    let (octets, rest) ← takeSomeOctets true rest
    match rest with
    | '>' :: rest => .ok (⟨"", octets⟩, rest)
    | _ => .error "did not find the expected '>'"
  | _, '!' :: rest => do
    let (octets, rest) ← takeSomeOctets false rest
    .ok (⟨String.ofList ('!' :: name ++ ['!']), octets⟩, rest)
  | _, _ => do
    let (octets, rest) ← takeOctets false text
    if octets.isEmpty then .ok (⟨"", Text.Utf8.encode "!"⟩, rest) else .ok (⟨"!", octets⟩, rest)

end WrittenTag

end SearchIndex.Yaml
