import Scaffold.CommandLine.Session

/-! # The program

  Reads what a run can look at, lets the library do the run, and carries its
  outcome over to the disk and to the output streams.
-/

namespace Scaffold.Main

/-! ### From the disk -/

/-- The names of an absolute path. -/
def namesOf (path : String) : Location :=
  (Text.splitAt '/' path).filter fun name => name != "" && name != "."

/-- Adds a directory with the missing ones above it. -/
def addDirectories (fs : FileSystem) (location : Location) : FileSystem :=
  (List.range location.length).foldl (fun fs i =>
    let place := location.take (i + 1)
    if (fs.get? place).isSome then fs else fs.addDirectory place) fs

/-- Adds what is at a location on the disk, with everything below it. -/
partial def loadTree (fs : FileSystem) (location : Location) : IO FileSystem := do
  let path := "/" ++ Text.joinTexts '/' location
  let here := (← IO.currentDir) / path
  if ← here.isDir then
    let mut loaded := addDirectories fs location
    for entry in ← here.readDir do
      loaded ← loadTree loaded (location ++ [entry.fileName])
    return loaded
  else if ← here.pathExists then
    let bytes ← IO.FS.readBinFile here
    return (addDirectories fs location.dropLast).setFile location bytes
  else return fs

/-- Adds the directories of the disk above a location. -/
def loadAncestors (fs : FileSystem) (location : Location) : IO FileSystem := do
  let mut loaded := fs
  for i in List.range location.length do
    let place := location.take (i + 1)
    let here := (← IO.currentDir) / ("/" ++ Text.joinTexts '/' place)
    if ← here.isDir then loaded := addDirectories loaded place
  return loaded

/-! ### To the disk -/

/-- Writes what is new or different. -/
def saveEntry (before : FileSystem) (location : Location) (entry : Entry) : IO Unit := do
  let here := (← IO.currentDir) / ("/" ++ Text.joinTexts '/' location)
  match entry with
  | .directory => if (before.get? location).isNone then IO.FS.createDirAll here
  | .file content =>
    if before.get? location != some (.file content) then IO.FS.writeBinFile here content

/-- Carries the difference between two file systems over to the disk. -/
def save (before after : FileSystem) : IO Unit := do
  for (location, _) in before.entries do
    if (after.get? location).isNone then
      let here := (← IO.currentDir) / ("/" ++ Text.joinTexts '/' location)
      if ← here.isDir then IO.FS.removeDirAll here
      else if ← here.pathExists then IO.FS.removeFile here
  for (location, entry) in after.entries do
    saveEntry before location entry

/-! ### The run -/

/-- All of standard input. -/
partial def readAll (input : IO.FS.Stream) (text : String) : IO String := do
  let line ← input.getLine
  if line.isEmpty then return text else readAll input (text ++ line)

/-- The location of a path seen from the current directory, read lexically. -/
def locationOf (current : Location) (path : String) : Location :=
  let names := if (Path.mk path).isAbsolute then namesOf path else current ++ namesOf path
  names.foldl (fun l name => if name = ".." then l.dropLast else l ++ [name]) []

/-- The file system as far as a run can look at it. -/
def loadAll (a : Arguments) : IO FileSystem := do
  let current := namesOf (← IO.currentDir).toString
  let fs ← loadAncestors { current := current } current
  let mut loaded ← loadAncestors fs ["tmp"]
  for path in [a.template, a.output] do
    let location := locationOf current path
    loaded ← loadAncestors loaded location
    loaded ← loadTree loaded location
  return loaded

/-- Where the staging tree lies while the library runs. It never reaches the disk. -/
def stagePlace : Path := ⟨"/tmp/kiln-staging"⟩

/-- Where a fetched repository would lie. This program cannot fetch any. -/
def checkoutPlace : Path := ⟨"/tmp/kiln-template"⟩

/-- Runs the program. -/
def run (arguments : List String) : IO UInt32 := do
  let fs ← match Arguments.parse arguments with
    | .ok a => loadAll a
    | .error _ => pure {}
  let wantsInput := match Arguments.parse arguments with
    | .ok a => a.stdin
    | .error _ => false
  let stdin ← if wantsInput then readAll (← IO.getStdin) "" else pure ""
  let session := runSession { arguments, stdin, fs, stage := stagePlace, checkout := checkoutPlace }
  save fs session.fs
  (← IO.getStdout).putStr session.stdout
  (← IO.getStderr).putStr session.stderr
  return session.code.toUInt32

end Scaffold.Main

/-- The command line. -/
def main (arguments : List String) : IO UInt32 := Scaffold.Main.run arguments
