import SearchIndex.NameMap

/-!
Contract: JSON documents.

Numbers are integers of at most 64 bits, signed or unsigned, or reals. An object lists its members
as they were written and may repeat a name. `canonical` gives every object its members in
increasing order of their names, the last one of a name standing for all.
-/

namespace SearchIndex

inductive Json where
  | null
  | boolean (value : Bool)
  | integer (value : Int)
  | real (value : Float)
  | string (value : String)
  | array (items : List Json)
  | object (members : List (String × Json))
deriving Repr, Inhabited

namespace Json

mutual

/-- Sorts the members of every object and drops all but the last of a name. -/
def canonical : Json → Json
  | .array items => .array (canonicalItems items)
  | .object members => .object (canonicalMembers members)
  | document => document

def canonicalItems : List Json → List Json
  | [] => []
  | item :: rest => item.canonical :: canonicalItems rest

def canonicalMembers : List (String × Json) → List (String × Json)
  | [] => []
  | (name, value) :: rest =>
    let others := canonicalMembers rest
    if others.any fun entry => entry.1 == name then others
    else NameMap.put name value.canonical others

end

def member? (document : Json) (name : String) : Option Json :=
  match document with
  | .object members => (members.reverse.find? fun entry => entry.1 == name).map Prod.snd
  | _ => none

/-- An object of the members that are present. -/
def ofFields (fields : List (String × Option Json)) : Json :=
  .object (fields.filterMap fun field => field.2.map fun value => (field.1, value))

def natural (n : Nat) : Json := .integer (Int.ofNat n)

def strings (texts : List String) : Json := .array (texts.map .string)

/-- A text, or null where there is none. -/
def stringOrNull : Option String → Json
  | some text => .string text
  | none => .null

end Json

end SearchIndex
