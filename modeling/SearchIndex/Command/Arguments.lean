import SearchIndex.Command
import SearchIndex.Decimal.Real

/-!
Contract: reading a command from the words of a command line.

Words are read from left to right. A word that begins with two dashes is an option, whose value
follows an equals sign or is the next word; a value that is the next word must not look like an
option itself. A word that begins with one dash is a cluster of one-letter options. No option may
be repeated. A lone pair of dashes makes all further words plain. The version and the usage may be
asked for in place of a command; the first fault or question decides.
-/

namespace SearchIndex.Command

/-- What the words ask for in place of a command. -/
inductive Detour where
  /-- The words are no command. -/
  | rejected
  | version
  | usage
deriving DecidableEq, Repr

/-- What the value of an option must be. -/
inductive ValueKind where
  | path
  | text
  | word
  | real
  | format
  | operation
deriving DecidableEq, Repr

/-- A natural number of at most 32 bits, read with its sign. -/
def word? (text : String) : Option UInt32 :=
  (Decimal.integer? text.toList).bind fun n =>
    if 0 ≤ n ∧ n < UInt32.size then some (UInt32.ofNat n.toNat) else none

def ValueKind.accepts : ValueKind → String → Bool
  | .path, value => value != ""
  | .text, _ => true
  | .word, value => (word? value).isSome
  | .real, value => (Decimal.real? value.toList).isSome
  | .format, value => (OutputFormat.ofName? value).isSome
  | .operation, value => (Maintenance.parse value).isOk

/-- The options and words that a command takes. An option without a kind of value is a flag. -/
structure Layout where
  options : List (String × Option ValueKind)
  /-- The options that must be given. -/
  required : List String
  /-- The options that ask for another one. -/
  paired : List (String × String)
  /-- Whether paths are taken, and at least one is needed. -/
  takesPaths : Bool

/-- What the words give: values of options, flags, and paths in order. -/
structure Given where
  values : List (String × String)
  flags : List String
  paths : List String

namespace Given

def nothing : Given := ⟨[], [], []⟩

def value? (given : Given) (name : String) : Option String :=
  (given.values.find? fun entry => entry.1 == name).map Prod.snd

def has (given : Given) (name : String) : Bool := given.flags.contains name

def addValue (given : Given) (kind : ValueKind) (name value : String) : Except Detour Given :=
  if (given.value? name).isSome || !kind.accepts value then .error .rejected
  else .ok { given with values := given.values ++ [(name, value)] }

def addFlag (given : Given) (name : String) : Except Detour Given :=
  if given.has name then .error .rejected
  else .ok { given with flags := given.flags ++ [name] }

def addPath (given : Given) (layout : Layout) (path : String) : Except Detour Given :=
  if layout.takesPaths && ValueKind.path.accepts path then
    .ok { given with paths := given.paths ++ [path] }
  else .error .rejected

end Given

/-- The flag that every command takes. -/
def verboseFlag : String := "verbose"

def looksLikeOption (word : String) : Bool :=
  match word.toList with
  | ['-'] => false
  | '-' :: _ => true
  | _ => false

def readCluster (offersVersion : Bool) (given : Given) : List Char → Except Detour Given
  | [] => .ok given
  | 'v' :: rest => do readCluster offersVersion (← given.addFlag verboseFlag) rest
  | 'h' :: _ => .error .usage
  | 'V' :: _ => .error (if offersVersion then .version else .rejected)
  | _ :: _ => .error .rejected

/-- Cuts the name of an option from a value after an equals sign. -/
def cutOption (text : List Char) : String × Option String :=
  match text.dropWhile (· != '=') with
  | _ :: value => (String.ofList (text.takeWhile (· != '=')), some (String.ofList value))
  | [] => (String.ofList text, none)

def readFlag (given : Given) (name : String) (attached : Option String) : Except Detour Given :=
  if attached.isSome then .error .rejected else given.addFlag name

/-- Reads the words after the name of a command. -/
def readWords (layout : Layout) : Given → List String → Except Detour Given
  | given, [] => .ok given
  | given, word :: rest =>
    match word.toList with
    | ['-', '-'] => rest.foldlM (fun given path => given.addPath layout path) given
    | '-' :: '-' :: text => do
      let (name, attached) := cutOption text
      if name = verboseFlag then readWords layout (← readFlag given name attached) rest
      else if name = "help" then
        if attached.isSome then .error .rejected else .error .usage
      else match (layout.options.find? fun option => option.1 == name), attached, rest with
        | none, _, _ => .error .rejected
        | some (_, none), attached, rest =>
          readWords layout (← readFlag given name attached) rest
        | some (_, some kind), some value, rest =>
          readWords layout (← given.addValue kind name value) rest
        | some (_, some kind), none, value :: rest =>
          if looksLikeOption value then .error .rejected
          else do readWords layout (← given.addValue kind name value) rest
        | some (_, some _), none, [] => .error .rejected
    | '-' :: c :: cluster => do
      readWords layout (← readCluster false given (c :: cluster)) rest
    | _ => do readWords layout (← given.addPath layout word) rest

/-- Checks that what must be given is given. -/
def complete (layout : Layout) (given : Given) : Except Detour Given :=
  if layout.required.all (fun name => (given.value? name).isSome) &&
      layout.paired.all (fun pair =>
        (given.value? pair.1).isNone || (given.value? pair.2).isSome) &&
      (!layout.takesPaths || !given.paths.isEmpty) then .ok given
  else .error .rejected

def read (layout : Layout) (words : List String) : Except Detour Given := do
  complete layout (← readWords layout .nothing words)

namespace Given

/-- The text of an option that must be given. -/
def text (given : Given) (name : String) : String := (given.value? name).getD ""

def format? (given : Given) : Option OutputFormat :=
  (given.value? "format").bind OutputFormat.ofName?

def format (given : Given) : OutputFormat := given.format?.getD .json

def real? (given : Given) (name : String) : Option Float :=
  (given.value? name).bind fun value => Decimal.real? value.toList

end Given

/-- What the words after a command's name must be. -/
def validateLayout : Layout := ⟨[("config", some .path)], [], [], true⟩

/-- What the words after a command's name must be. -/
def compileLayout : Layout where
  options := [("definition", some .path), ("triggers", none), ("populate", none),
    ("config", some .path), ("format", some .format)]
  required := ["definition"]
  paired := []
  takesPaths := false

/-- What the words after a command's name must be. -/
def decompileLayout : Layout := ⟨[("input", some .path), ("format", some .format)], [], [], false⟩

/-- What the words after a command's name must be. -/
def searchLayout : Layout where
  options := [("db", some .path), ("table", some .text), ("query", some .text),
    ("columns", some .text), ("limit", some .word), ("offset", some .word), ("snippet", none),
    ("bm25-k1", some .real), ("bm25-b", some .real), ("config", some .path),
    ("format", some .format)]
  required := ["db", "table", "query"]
  paired := [("bm25-k1", "bm25-b"), ("bm25-b", "bm25-k1")]
  takesPaths := false

/-- What the words after a command's name must be. -/
def applyLayout : Layout where
  options := [("db", some .path), ("definitions", some .path), ("manifest", some .path),
    ("config", some .path), ("no-triggers", none), ("no-populate", none), ("force", none),
    ("dry-run", none)]
  required := ["db", "definitions"]
  paired := []
  takesPaths := false

/-- What the words after a command's name must be. -/
def statusLayout : Layout where
  options := [("db", some .path), ("definitions", some .path), ("manifest", some .path),
    ("config", some .path), ("format", some .format)]
  required := ["db", "definitions"]
  paired := []
  takesPaths := false

/-- What the words after a command's name must be. -/
def maintainLayout : Layout where
  options := [("db", some .path), ("table", some .text), ("op", some .operation)]
  required := ["db", "table", "op"]
  paired := []
  takesPaths := false

/-- What the words after a command's name must be. -/
def dropLayout : Layout where
  options := [("db", some .path), ("table", some .text), ("keep-triggers", none),
    ("manifest", some .path)]
  required := ["db", "table"]
  paired := []
  takesPaths := false

def searchOf (given : Given) : SearchArguments where
  database := given.text "db"
  index := given.text "table"
  query := given.text "query"
  columns := given.value? "columns"
  limit := (given.value? "limit").bind word?
  offset := ((given.value? "offset").bind word?).getD 0
  snippet := given.has "snippet"
  k1 := given.real? "bm25-k1"
  b := given.real? "bm25-b"
  settings := given.value? "config"
  format := given.format

/-- What is given to bring a database in line. -/
def applyOf (given : Given) : ApplyArguments where
  database := given.text "db"
  definitions := given.text "definitions"
  manifest := given.value? "manifest"
  settings := given.value? "config"
  noTriggers := given.has "no-triggers"
  noPopulate := given.has "no-populate"
  force := given.has "force"
  dryRun := given.has "dry-run"

def names : List String :=
  ["validate", "compile", "decompile", "search", "apply", "status", "maintain", "drop"]

def named (name : String) (words : List String) : Except Detour Command :=
  match name with
  | "validate" => do
    let given ← read validateLayout words
    .ok (.validate given.paths (given.value? "config"))
  | "compile" => do
    let given ← read compileLayout words
    .ok (.compile (given.text "definition") (given.has "triggers") (given.has "populate")
      (given.value? "config") given.format?)
  | "decompile" => do
    let given ← read decompileLayout words
    .ok (.decompile (given.value? "input") given.format)
  | "search" => do .ok (.search (searchOf (← read searchLayout words)))
  | "apply" => do .ok (.apply (applyOf (← read applyLayout words)))
  | "status" => do
    let given ← read statusLayout words
    .ok (.status (given.text "db") (given.text "definitions") (given.value? "manifest")
      (given.value? "config") given.format)
  | "maintain" => do
    let given ← read maintainLayout words
    match Maintenance.parse (given.text "op") with
    | .ok operation => .ok (.maintain (given.text "db") (given.text "table") operation)
    | .error _ => .error .rejected
  | "drop" => do
    let given ← read dropLayout words
    .ok (.drop (given.text "db") (given.text "table") (given.has "keep-triggers")
      (given.value? "manifest"))
  | "help" =>
    match words with
    | [] => .error .usage
    | [word] => .error (if word = "help" ∨ names.contains word then .usage else .rejected)
    | _ => .error .rejected
  | _ => .error .rejected

/-- Reads a command from the words of a command line. `given` holds the options that stand before
the command's name. -/
def ofWords (given : Given) : List String → Except Detour Command
  | [] => .error .rejected
  | word :: rest =>
    match word.toList with
    | ['-', '-'] => .error .rejected
    | '-' :: '-' :: text => do
      let (name, attached) := cutOption text
      if name = verboseFlag then ofWords (← readFlag given name attached) rest
      else if attached.isSome then .error .rejected
      else if name = "help" then .error .usage
      else if name = "version" then .error .version
      else .error .rejected
    | '-' :: c :: cluster => do ofWords (← readCluster true given (c :: cluster)) rest
    | _ => named word rest

def parse (words : List String) : Except Detour Command := ofWords .nothing words

end SearchIndex.Command
