import SearchIndex.Json.Decode
import SearchIndex.Sql.Quoted
import SearchIndex.Text.Blank

/-!
Contract: commands that keep an index in order.

A command is text, `name` or `name=argument`, a statement that runs it on an index, or a document.
-/

namespace SearchIndex

/-- A command on an index. -/
inductive Maintenance where
  /-- Reads all texts again. -/
  | rebuild
  /-- Merges all parts of the index into one. -/
  | optimize
  /-- Compares the index with the texts. -/
  | integrityCheck
  /-- Takes all entries out. -/
  | deleteAll
  /-- Merges parts of the index, up to a number of pages. -/
  | merge (pages : Int64)
  /-- Sets how many parts are merged of themselves; at most 16 in text. -/
  | automerge (level : UInt8)
deriving DecidableEq, Repr

/-- Why a text is no command. -/
inductive MaintenanceError where
  | badArgument (name argument : String)
  | unknown (text : String)
deriving DecidableEq, Repr

def MaintenanceError.message : MaintenanceError → String
  | .badArgument name argument => "invalid argument for " ++ name ++ ": '" ++ argument ++ "'"
  | .unknown text => "unknown maintenance command: '" ++ text ++ "'"

namespace Maintenance

def name : Maintenance → String
  | .rebuild => "rebuild"
  | .optimize => "optimize"
  | .integrityCheck => "integrity-check"
  | .deleteAll => "delete-all"
  | .merge _ => "merge"
  | .automerge _ => "automerge"

def argument? : Maintenance → Option Int
  | .merge pages => some pages.toInt
  | .automerge level => some level.toNat
  | _ => none

def render (command : Maintenance) : String :=
  match command.argument? with
  | some argument => command.name ++ "=" ++ Decimal.integer argument
  | none => command.name

def statement (command : Maintenance) (index : String) : String :=
  let table := Sql.identifier index
  let name := Sql.literal command.name
  match command.argument? with
  | some argument =>
    "INSERT INTO " ++ table ++ "(" ++ table ++ ", rank) VALUES(" ++ name ++ ", " ++
      Decimal.integer argument ++ ");"
  | none => "INSERT INTO " ++ table ++ "(" ++ table ++ ") VALUES(" ++ name ++ ");"

/-- The highest level of automatic merging. -/
def maxLevel : UInt8 := 16

/-- Cuts a text at its first equals sign and drops the blanks around both sides. -/
def cut (text : List Char) : List Char × Option (List Char) :=
  match text.dropWhile (· != '=') with
  | _ :: argument => (Text.trim (text.takeWhile (· != '=')), some (Text.trim argument))
  | [] => (Text.trim text, none)

/-- The command that a text writes, with its name in capital or small letters. -/
def parse (text : String) : Except MaintenanceError Maintenance :=
  let (name, argument) := cut text.toList
  let argument := argument.map String.ofList
  let refused (argument : String) : Except MaintenanceError Maintenance :=
    .error (.badArgument (String.ofList name) argument)
  match String.ofList (name.map Char.toLower), argument with
  | "rebuild", none => .ok .rebuild
  | "optimize", none => .ok .optimize
  | "integrity-check", none => .ok .integrityCheck
  | "delete-all", none => .ok .deleteAll
  | "merge", some argument =>
    match Decimal.long? argument with
    | some pages => .ok (.merge pages)
    | none => refused argument
  | "automerge", some argument =>
    match Decimal.byte? argument with
    | some level => if level ≤ maxLevel then .ok (.automerge level) else refused argument
    | none => refused argument
  | _, _ => .error (.unknown text)

/-- The names of the commands in order. -/
def names : List String :=
  ["rebuild", "optimize", "integrity-check", "delete-all", "merge", "automerge"]

def ofJson (document : Json) : Except Mismatch Maintenance := do
  let (name, content) ← document.asTagged
  let plain (command : Maintenance) : Except Mismatch Maintenance := do
    Json.noContent content
    .ok command
  match name with
  | "rebuild" => plain .rebuild
  | "optimize" => plain .optimize
  | "integrity-check" => plain .integrityCheck
  | "delete-all" => plain .deleteAll
  | "merge" => do .ok (.merge (← Json.withContent Json.asLong content))
  | "automerge" => do .ok (.automerge (← Json.withContent Json.asByte content))
  | _ => .error (.unknownVariant name names)

def toJson (command : Maintenance) : Json :=
  match command.argument? with
  | some argument => .object [(command.name, .integer argument)]
  | none => .string command.name

end Maintenance

end SearchIndex
