import SearchIndex.Maintenance

/-!
Contract: the commands of the program and what they are given.
-/

namespace SearchIndex

inductive OutputFormat where
  | json
  | yaml
deriving DecidableEq, Repr

def OutputFormat.name : OutputFormat → String
  | .json => "json"
  | .yaml => "yaml"

def OutputFormat.ofName? (name : String) : Option OutputFormat :=
  [OutputFormat.json, .yaml].find? fun format => format.name == name

namespace Command

structure SearchArguments where
  database : String
  index : String
  query : String
  /-- Columns between commas. -/
  columns : Option String
  limit : Option UInt32
  offset : UInt32
  snippet : Bool
  k1 : Option Float
  b : Option Float
  settings : Option String
  format : OutputFormat
deriving Repr

/-- What bringing a database in line is given. -/
structure ApplyArguments where
  database : String
  definitions : String
  manifest : Option String
  settings : Option String
  noTriggers : Bool
  noPopulate : Bool
  force : Bool
  dryRun : Bool
deriving DecidableEq, Repr

end Command

inductive Command where
  /-- Checks definition files. -/
  | validate (inputs : List String) (settings : Option String)
  /-- Writes the statements of a definition file. -/
  | compile (definition : String) (triggers populate : Bool) (settings : Option String)
    (format : Option OutputFormat)
  /-- Reads a statement back, from a file or the input. -/
  | decompile (input : Option String) (format : OutputFormat)
  /-- Searches an index. -/
  | search (arguments : Command.SearchArguments)
  /-- Brings a database in line with definitions. -/
  | apply (arguments : Command.ApplyArguments)
  /-- Compares a database with definitions. -/
  | status (database definitions : String) (manifest settings : Option String)
    (format : OutputFormat)
  /-- Runs a command on an index. -/
  | maintain (database index : String) (operation : Maintenance)
  /-- Drops an index. -/
  | drop (database index : String) (keepTriggers : Bool) (manifest : Option String)
deriving Repr

namespace Command

/-- The paths of the files that a command may read or write. -/
def paths : Command → List String
  | .validate inputs settings => inputs ++ settings.toList
  | .compile definition _ _ settings _ => definition :: settings.toList
  | .decompile input _ => input.toList
  | .search arguments => arguments.database :: arguments.settings.toList
  | .apply arguments =>
    [arguments.database, arguments.definitions] ++ arguments.manifest.toList ++
      arguments.settings.toList
  | .status database definitions manifest settings _ =>
    [database, definitions] ++ manifest.toList ++ settings.toList
  | .maintain database _ _ => [database]
  | .drop database _ _ manifest => database :: manifest.toList

def readsInput : Command → Bool
  | .decompile none _ => true
  | _ => false

end Command

end SearchIndex
