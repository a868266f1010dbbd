import SearchIndex.Command.Run
import SearchIndex.Database.File
import SearchIndex.Timestamp

/-!
Contract: the program.

It reads the files that the command names and runs the command on them. Then it writes the files
that the command changed, the output and the messages. What it decides, it decides in `Command`.
-/

namespace SearchIndex.Program

def entryOf (bytes : List UInt8) : FileEntry :=
  match Database.Catalog.ofBytes? bytes with
  | some catalog => .database catalog
  | none => .file bytes

def bytesOf : FileEntry → List UInt8
  | .file bytes => bytes
  | .database catalog => catalog.toBytes
  | .directory => []

/-- Adds the file at a path. One that cannot be read is left out. -/
def addFile (tree : FileTree) (path : String) : IO FileTree := do
  match ← (IO.FS.readBinFile path).toBaseIO with
  | .ok bytes => return tree.add path (entryOf bytes.toList)
  | .error _ => return tree

def addPath (tree : FileTree) (path : String) : IO FileTree := do
  match ← (IO.FS.realPath path).toBaseIO with
  | .error _ => return tree
  | .ok place =>
    if ← place.isDir then
      let entries ← place.readDir
      entries.foldlM (fun tree entry => addFile tree (FileTree.joinPath path entry.fileName))
        (tree.add path .directory)
    else addFile tree path

def addDirectory (tree : FileTree) (path : String) : IO FileTree := do
  match ← (IO.FS.realPath path).toBaseIO with
  | .error _ => return tree
  | .ok place => return if ← place.isDir then tree.add path .directory else tree

def readPaths (paths : List String) : IO FileTree := do
  let place ← IO.currentDir
  let tree ← paths.foldlM (fun tree path => addDirectory tree (FileTree.parentPath path))
    (FileTree.within place.toString)
  paths.foldlM addPath tree

def writeChanges (paths : List String) (before after : FileTree) : IO Unit :=
  paths.forM fun path => do
    match after.lookup path with
    | .error _ => pure ()
    | .ok entry =>
      if (before.lookup path).toOption = some entry then pure ()
      else IO.FS.writeBinFile path (bytesOf entry).toByteArray

/-- The time, as the clock of the file system has it. -/
def now : IO String := do
  let (_, path) ← IO.FS.createTempFile
  let written ← path.metadata
  IO.FS.removeFile path
  return Timestamp.ofSeconds written.modified.sec.toNat

def readInput : IO (List UInt8) := do
  return (← (← IO.getStdin).readBinToEnd).toList

/-- Runs a command. Work on a catalog takes no time that could be told. -/
def run (command : Command) : IO UInt32 := do
  let files ← readPaths command.paths
  let input ← if command.readsInput then readInput else pure []
  let outcome := command.run ⟨files, input, ← now, "0.0"⟩
  writeChanges command.paths files outcome.files
  IO.print outcome.outputText
  IO.eprint outcome.messageText
  return UInt32.ofNat outcome.exitCode

end SearchIndex.Program

/-- Reads a command from the words of the command line, and runs it. -/
def main (words : List String) : IO UInt32 := do
  match SearchIndex.Command.parse words with
  | .ok command => SearchIndex.Program.run command
  | .error .version =>
    IO.println SearchIndex.Command.versionLine
    return 0
  | .error .usage =>
    IO.println SearchIndex.Command.usageLine
    return 0
  | .error .rejected =>
    IO.eprintln SearchIndex.Command.usageLine
    return 2
