import SearchIndex.Database.Catalog
import SearchIndex.Text.Fields
import SearchIndex.Text.Utf8

/-!
Contract: the files that commands read and write.

A tree lists its entries by their place, the names on the way from the root. A path begins at the
root if it starts with a slash, and at the base of the tree otherwise; `.` and empty parts stay
where they are and `..` goes up. What stands on the way must be a directory.
-/

namespace SearchIndex

/-- What stands at a place. -/
inductive FileEntry where
  | file (bytes : List UInt8)
  | database (catalog : Database.Catalog)
  | directory
deriving DecidableEq

/-- Why a path cannot be used. -/
inductive FileError where
  | missing
  | notDirectory
  | isDirectory
  | notText
deriving DecidableEq, Repr

def FileError.message : FileError → String
  | .missing => "No such file or directory (os error 2)"
  | .notDirectory => "Not a directory (os error 20)"
  | .isDirectory => "Is a directory (os error 21)"
  | .notText => "stream did not contain valid UTF-8"

/-- The names on the way to an entry. -/
abbrev Place := List String

/-- Entries by their places. -/
structure FileTree where
  /-- Where relative paths begin. -/
  base : Place
  entries : List (Place × FileEntry)

namespace FileTree

/-- A tree with nothing below its root. -/
def empty : FileTree := ⟨[], []⟩

def at? (tree : FileTree) (place : Place) : Option FileEntry :=
  if place.isEmpty then some .directory
  else (tree.entries.find? fun entry => entry.1 == place).map Prod.snd

def set (tree : FileTree) (place : Place) (entry : FileEntry) : FileTree :=
  if tree.entries.any fun old => old.1 == place then
    { tree with
      entries := tree.entries.map fun old => if old.1 == place then (place, entry) else old }
  else { tree with entries := tree.entries ++ [(place, entry)] }

def origin (tree : FileTree) (path : String) : Place :=
  if path.toList.head? = some '/' then [] else tree.base

/-- The place that one part of a path leads to. Above the root is the root. -/
def next (place : Place) (part : String) : Place :=
  if part = "" ∨ part = "." then place
  else if part = ".." then place.dropLast
  else place ++ [part]

/-- Goes from a place along the parts of a path. -/
def walk (tree : FileTree) : Place → (parts : List String) → Except FileError Place
  | place, [] => .ok place
  | place, part :: rest =>
    match tree.at? place with
    | some .directory => walk tree (next place part) rest
    | some _ => .error .notDirectory
    | none => .error .missing

def resolve (tree : FileTree) (path : String) : Except FileError Place :=
  if path = "" then .error .missing
  else tree.walk (tree.origin path) (Text.fields '/' path)

def lookup (tree : FileTree) (path : String) : Except FileError FileEntry := do
  let place ← tree.resolve path
  match tree.at? place with
  | some entry => .ok entry
  | none => .error .missing

/-- Whether a path leads to an entry. -/
def contains (tree : FileTree) (path : String) : Bool := (tree.lookup path).isOk

def isDirectory (tree : FileTree) (path : String) : Bool :=
  match tree.lookup path with
  | .ok .directory => true
  | _ => false

def readText (tree : FileTree) (path : String) : Except FileError String := do
  match ← tree.lookup path with
  | .directory => .error .isDirectory
  | .database _ => .error .notText
  | .file bytes => (Text.Utf8.decode bytes).mapError fun _ => .notText

/-- The names of the entries in a directory. -/
def names (tree : FileTree) (path : String) : Except FileError (List String) := do
  let place ← tree.resolve path
  match tree.at? place with
  | some .directory =>
    .ok (tree.entries.filterMap fun entry =>
      if entry.1.dropLast == place then entry.1.getLast? else none)
  | some _ => .error .notDirectory
  | none => .error .missing

/-- Sets the entry at a path. It must not be a directory and must have a directory around it. -/
def write (tree : FileTree) (path : String) (entry : FileEntry) : Except FileError FileTree := do
  let place ← tree.resolve path
  match tree.at? place with
  | some .directory => .error .isDirectory
  | some _ => .ok (tree.set place entry)
  | none =>
    match tree.at? place.dropLast with
    | some .directory =>
      if (Text.fields '/' path).getLast? = some "" then .error .isDirectory
      else .ok (tree.set place entry)
    | some _ => .error .notDirectory
    | none => .error .missing

def withDirectory (tree : FileTree) (place : Place) : FileTree :=
  if (tree.at? place).isSome then tree else tree.set place .directory

/-- Adds an entry at the end of a path, and the directories on the way. -/
def addAlong (entry : FileEntry) : FileTree → Place → (parts : List String) → FileTree
  | tree, place, [] => tree.set place entry
  | tree, place, part :: rest => addAlong entry (tree.withDirectory place) (next place part) rest

def add (tree : FileTree) (path : String) (entry : FileEntry) : FileTree :=
  addAlong entry tree (tree.origin path) (Text.fields '/' path)

/-- A tree with the directories on the way to its base, in which nothing stands. -/
def within (path : String) : FileTree :=
  let base := (Text.fields '/' path).foldl next []
  { empty.add ("/" ++ path) .directory with base }

def textFile (text : String) : FileEntry := .file (Text.Utf8.encode text)

def joinPath (directory name : String) : String :=
  if directory.toList.getLast? = some '/' then directory ++ name else directory ++ "/" ++ name

/-- The path of the directory around an entry. -/
def parentPath (path : String) : String :=
  match (Text.fields '/' path).dropLast with
  | [] => "."
  | [""] => "/"
  | parts => "/".intercalate parts

/-- What stands after the last dot of a path's last name, unless the name begins with that dot. -/
def extension? (path : String) : Option String :=
  match ((Text.fields '/' path).filter fun part => part != "" && part != ".").getLast? with
  | none => none
  | some name =>
    if name = ".." then none
    else match (Text.fields '.' name).reverse with
      | last :: before :: others => if before = "" ∧ others = [] then none else some last
      | _ => none

end FileTree

end SearchIndex
