import SearchIndex.Document.Record
import SearchIndex.Json
import SearchIndex.Yaml.Node

/-!
Contract: the values that YAML documents stand for.

A plain scalar is null, a truth value, an integer or a real if it is spelled like one, and a text
otherwise; any other scalar is a text. Digits with a leading zero are a text, except after the
marks of base 16, 8 and 2. A tag of the core schema fixes the kind of a scalar in whatever style,
and a tag that names a variant is refused where any value may stand. A reader that expects a
number or a truth value takes a plain scalar, or a literal block with the tag of that kind; one
that expects a text takes any scalar as it is written. An alias is read as the node it stands for.
-/

namespace SearchIndex.Yaml

/-- The value of a plain scalar. `tooLarge` is an integer of more than 64 bits. -/
inductive Plain where
  | null
  | boolean (value : Bool)
  | integer (value : Int)
  | tooLarge
  | real (value : Float)
  | text
deriving Repr

namespace Plain

/-- A sign or a digit run is no number when digits follow a leading zero. -/
def isZeroPadded (text : List Char) : Bool :=
  let digits := match text with
    | '-' :: rest => rest
    | '+' :: rest => rest
    | rest => rest
  match digits with
  | '0' :: d :: rest => (d :: rest).all Char.isDigit
  | _ => false

def digit? (base : Nat) (c : Char) : Option Nat :=
  (Text.Hex.value? c).filter fun digit => digit < base

/-- The number that a non-empty run of digits writes in a base. -/
def inBase? (base : Nat) (digits : List Char) : Option Nat :=
  if digits.isEmpty then none
  else digits.foldlM (fun number c => (digit? base c).map fun digit => number * base + digit) 0

/-- A number after the mark of its base. -/
def marked? : List Char → Option Nat
  | '0' :: 'x' :: digits => inBase? 16 digits
  | '0' :: 'o' :: digits => inBase? 8 digits
  | '0' :: 'b' :: digits => inBase? 2 digits
  | _ => none

def integer? (text : List Char) : Option Int :=
  match text with
  | '-' :: rest =>
    match marked? rest with
    | some n => some (-Int.ofNat n)
    | none =>
      if isZeroPadded text then none else (inBase? 10 rest).map fun n => -Int.ofNat n
  | text =>
    let rest := match text with
      | '+' :: rest => rest
      | rest => rest
    match marked? rest with
    | some n => some (Int.ofNat n)
    | none => if isZeroPadded text then none else (inBase? 10 rest).map Int.ofNat

def real? (text : List Char) : Option Float :=
  let name := String.ofList text
  let unsigned := match text with
    | '+' :: rest => rest
    | rest => rest
  if name ∈ [".inf", ".Inf", ".INF", "+.inf", "+.Inf", "+.INF"] then some Decimal.infiniteReal
  else if name ∈ ["-.inf", "-.Inf", "-.INF"] then some (-Decimal.infiniteReal)
  else if name ∈ [".nan", ".NaN", ".NAN"] then some Decimal.undefinedReal
  else match text, unsigned with
    | '+' :: _, '+' :: _ => none
    | '+' :: _, '-' :: _ => none
    | _, unsigned => (Decimal.real? unsigned).filter Decimal.isFinite

/-- A truth value. -/
def boolean? (text : String) : Option Bool :=
  if text ∈ ["true", "True", "TRUE"] then some true
  else if text ∈ ["false", "False", "FALSE"] then some false
  else none

/-- Whether a plain scalar is null. -/
def isNull (text : String) : Bool :=
  text ∈ ["", "null", "Null", "NULL", "~"]

/-- The integer that a text spells, if it spells one of at most 128 bits. -/
def whole? (text : String) : Option Plain :=
  (integer? text.toList).bind fun n =>
    if -Nat.pow 2 63 ≤ n ∧ n < UInt64.size then some (.integer n)
    else if -Nat.pow 2 127 ≤ n ∧ n < Nat.pow 2 128 then some .tooLarge
    else none

/-- The value of a plain scalar. -/
def ofText (text : String) : Plain :=
  if isNull text then .null
  else match boolean? text, whole? text with
    | some value, _ => .boolean value
    | none, some value => value
    | none, none =>
      if isZeroPadded text.toList then .text
      else match real? text.toList with
        | some x => .real x
        | none => .text

end Plain

namespace Node

/-- What a node is, as messages name it. -/
def found : Node → Found
  | .scalar text .plain _ =>
    match Plain.ofText text with
    | .null => .null
    | .boolean value => .boolean value
    | .integer value => .integer value
    | .real value => .real value
    | _ => .string text
  | .scalar text _ _ => .string text
  | .sequence _ _ => .sequence
  | .mapping _ _ => .map
  | .alias _ => .null

def wrongType {α : Type} (node : Node) (expected : String) : Except Mismatch α :=
  .error (.invalidType node.found expected)

/-- The variant that the node's tag names. -/
def variant? : Node → Option String
  | .scalar _ _ tag | .sequence _ tag | .mapping _ tag => tag.bind Tag.variant?
  | .alias _ => none

/-- The node itself, or the one that it stands for: of those with the number, the last to begin. -/
def target (named : NamedNodes) : Node → Node
  | .alias number =>
    ((named.findRev? fun entry => entry.1 == number).map Prod.snd).getD absent
  | node => node

/-- Any scalar, as it is written. -/
def asText : Node → Except Mismatch String
  | .scalar text _ _ => .ok text
  | node => node.wrongType "a string"

/-- The text that a reader of the given kind of value takes. -/
def spelling? (kind : Tag) : Node → Option String
  | .scalar text .plain _ => some text
  | .scalar text .literal (some tag) => if tag = kind then some text else none
  | _ => none

/-- A natural number of at most 32 bits, without a minus sign. -/
def asWord (node : Node) : Except Mismatch UInt32 :=
  let unsigned := (node.spelling? .integer).filter fun text => text.toList.head? != some '-'
  match unsigned.bind fun text => Plain.integer? text.toList with
  | some n =>
    if 0 ≤ n ∧ n < UInt32.size then .ok (UInt32.ofNat n.toNat)
    else .error (.invalidValue (.integer n) "u32")
  | none => node.wrongType "u32"

def asReal (node : Node) : Except Mismatch Float :=
  match (node.spelling? .real).bind fun text => Plain.real? text.toList with
  | some x => .ok x
  | none => node.wrongType "f64"

/-- A truth value. -/
def asBoolean (node : Node) : Except Mismatch Bool :=
  match (node.spelling? .boolean).bind Plain.boolean? with
  | some value => .ok value
  | none => node.wrongType "a boolean"

/-- One of the given names: the variant that the tag of a null names, or the text of a scalar
without such a tag. -/
def asVariant (known : List String) (node : Node) : Except Mismatch String :=
  let choose (name : String) : Except Mismatch String :=
    if known.contains name then .ok name else .error (.unknownVariant name known)
  match node.variant?, node with
  | some name, .scalar text .plain _ =>
    if Plain.isNull text then choose name else .error (.invalidValue (.string text) "null")
  | none, .scalar text _ _ => choose text
  | _, node => node.wrongType "a variant"

/-! ### Any value -/

/-- A reading that may follow only so many aliases. -/
abbrev Following := StateT Nat (Except Mismatch)

/-- The node itself, or the one that an alias stands for. -/
def follow (named : NamedNodes) (node : Node) : Following Node :=
  match node with
  | .alias _ => do
    match ← get with
    | 0 => throw (.refused "repetition limit exceeded")
    | left + 1 =>
      set left
      pure (node.target named)
  | node => pure node

def scalarValue (text : String) (style : ScalarStyle) (tag : Option Tag) :
    Except Mismatch Plain :=
  let must (value : Option Plain) (expected : String) : Except Mismatch Plain :=
    match value with
    | some value => .ok value
    | none => .error (.invalidValue (.string text) expected)
  match tag with
  | some .null => must (if Plain.isNull text ∧ text ≠ "" then some .null else none) "null"
  | some .boolean => must ((Plain.boolean? text).map .boolean) "a boolean"
  | some .integer => must (Plain.whole? text) "an integer"
  | some .real => must ((Plain.real? text.toList).map .real) "a float"
  | some _ => .ok .text
  | none => .ok (if style = .plain then Plain.ofText text else .text)

def scalarToJson (text : String) (style : ScalarStyle) (tag : Option Tag) :
    Except Mismatch Json := do
  match ← scalarValue text style tag with
  | .null => .ok .null
  | .boolean value => .ok (.boolean value)
  | .integer value => .ok (.integer value)
  | .tooLarge => .error (.refused "JSON number out of range")
  | .real x => .ok (if Decimal.isFinite x then .real x else .null)
  | .text => .ok (.string text)

/-- The key of an entry: a scalar, as it is written. -/
def keyText (named : NamedNodes) (node : Node) : Following String := do
  match ← follow named node with
  | .scalar text _ _ => pure text
  | node => throw (.invalidType node.found "a string key")

/-- The node, or the one that an alias stands for, where any value but a variant may stand. -/
def followValue (named : NamedNodes) (node : Node) : Following Node := do
  let node ← follow named node
  if node.variant?.isSome then
    throw (.refused "invalid type: enum, expected any valid JSON value")
  pure node

/-- The document that a node stands for, if at most `depth` collections enclose each other. -/
def toJson (named : NamedNodes) : (depth : Nat) → Node → Following Json
  | 0, node => do
    match ← followValue named node with
    | .scalar text style tag => scalarToJson text style tag
    | _ => throw (.refused "recursion limit exceeded")
  | depth + 1, node => do
    match ← followValue named node with
    | .scalar text style tag => scalarToJson text style tag
    | .sequence items _ => return .array (← items.mapM (toJson named depth))
    | .mapping entries _ =>
      return .object (← entries.mapM fun entry => do
        return (← keyText named entry.1, ← toJson named depth entry.2))
    | .alias _ => throw (.refused "an alias stands for an alias")

mutual

/-- How many parts a node is written with: a scalar or an alias is one, and the two ends of a
collection are one each. -/
def extent : Node → Nat
  | .scalar _ _ _ => 1
  | .alias _ => 1
  | .sequence items _ => 2 + extentOfItems items
  | .mapping entries _ => 2 + extentOfEntries entries

/-- How many parts items are written with. -/
def extentOfItems : List Node → Nat
  | [] => 0
  | item :: rest => item.extent + extentOfItems rest

/-- How many parts entries are written with. -/
def extentOfEntries : List (Node × Node) → Nat
  | [] => 0
  | (key, value) :: rest => key.extent + value.extent + extentOfEntries rest

end

end Node

namespace Document

def content (document : Document) : Node := document.root.target document.named

/-- The parts of a record. Where nothing is written no field is given. -/
def asShape (expected : String) (document : Document) : Except Mismatch (Shape Document) :=
  match document.content with
  | .mapping entries _ => do
    let members ← entries.mapM fun entry => do
      .ok (← (entry.1.target document.named).asText, { document with root := entry.2 })
    .ok (.named members)
  | .sequence items _ => .ok (.positional (items.map fun item => { document with root := item }))
  | .scalar "" .plain _ => .ok (.named [])
  | node => node.wrongType expected

instance : Readable Document where
  shape := asShape
  text document := document.content.asText
  word document := document.content.asWord
  real document := document.content.asReal
  boolean document := document.content.asBoolean
  variant known document := document.content.asVariant known

/-- The value that a document stands for. It has at most 128 collections inside each other, and a
hundred aliases may be followed for each of its parts. -/
def toJson (document : Document) : Except Mismatch Json :=
  (Node.toJson document.named 128 document.root).run' (document.root.extent * 100)

end Document

end SearchIndex.Yaml
