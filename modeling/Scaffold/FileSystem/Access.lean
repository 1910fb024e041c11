import Scaffold.FileSystem.Resolve

/-! # File operations

  Reading and changing a file system by paths. A refused operation changes
  nothing, except that directories made on the way to another one stay.

  - `readBytes`, `readText`, `writeBytes`: whole files.
  - `createDirectory`, `createDirectories`: one directory, or a chain of them.
  - `removeFile`, `removeTree`, `rename`, `copyFile`.
  - `copyInto`: a copy with the directories that it needs.
-/

namespace Scaffold.FileSystem

/-! ### Reading -/

/-- The bytes of a file. -/
def readBytes (fs : FileSystem) (path : Path) : Except IoFault ByteArray := do
  let location ← fs.locate path
  match fs.get? location with
  | some (.file content) => .ok content
  | some .directory => .error .isADirectory
  | none => .error .notFound

/-- The text of a file. -/
def readText (fs : FileSystem) (path : Path) : Except IoFault String := do
  let bytes ← fs.readBytes path
  match String.fromUTF8? bytes with
  | some text => .ok text
  | none => .error .notText

/-! ### Writing -/

/-- Replaces the bytes of a file, or makes a new one in an existing directory. -/
def writeBytes (fs : FileSystem) (path : Path) (content : ByteArray) :
    Except IoFault FileSystem := do
  let place ← fs.place path
  match place.name? with
  | none => .error .isADirectory
  | some name =>
    if place.slash ∨ fs.isDirectoryAt (place.directory ++ [name]) then .error .isADirectory
    else .ok (fs.setFile (place.directory ++ [name]) content)

/-- Makes one directory in an existing one. -/
def createDirectory (fs : FileSystem) (path : Path) : Except IoFault FileSystem := do
  let place ← fs.place path
  match place.name? with
  | none => .error .alreadyExists
  | some name =>
    if (fs.get? (place.directory ++ [name])).isSome then .error .alreadyExists
    else .ok (fs.addDirectory (place.directory ++ [name]))

/-- A path and all its ancestors but the empty path and the root, the longest first. -/
def ancestors (path : Path) : Nat → List Path
  | 0 => []
  | fuel + 1 =>
    match path.parent? with
    | none => []
    | some parent =>
      if path.components = [] then [] else path :: ancestors parent fuel

/-- The paths that `createDirectories` may have to make, the longest first. -/
def directoryChain (path : Path) : List Path :=
  ancestors path (path.text.length + 1)

/-- Makes every directory of a chain, the last one first. What was made before a refusal stays. -/
def createChain (fs : FileSystem) : List Path → Except IoFault Unit × FileSystem
  | [] => (.ok (), fs)
  | path :: rest =>
    match fs.createDirectory path with
    | .ok fs' => (.ok (), fs')
    | .error .notFound =>
      match fs.createChain rest with
      | (.error fault, fs') => (.error fault, fs')
      | (.ok (), fs') =>
        match fs'.createDirectory path with
        | .ok fs'' => (.ok (), fs'')
        | .error fault =>
          if fault = .alreadyExists ∧ fs'.isDirectory path then (.ok (), fs')
          else (.error fault, fs')
    | .error fault =>
      if fault = .alreadyExists ∧ fs.isDirectory path then (.ok (), fs) else (.error fault, fs)

/-- Makes a directory and the missing ones above it. -/
def createDirectories (fs : FileSystem) (path : Path) : Except IoFault Unit × FileSystem :=
  fs.createChain (directoryChain path)

/-! ### Removing -/

/-- Removes a file. -/
def removeFile (fs : FileSystem) (path : Path) : Except IoFault FileSystem := do
  let location ← fs.locate path
  if fs.isDirectoryAt location then .error .isADirectory else .ok (fs.eraseTree location)

/-- Removes a directory with everything below it. -/
def removeTree (fs : FileSystem) (path : Path) : Except IoFault FileSystem := do
  let location ← fs.locate path
  if fs.isDirectoryAt location then .ok (fs.eraseTree location) else .error .notADirectory

/-! ### Renaming and copying -/

/-- Whether a directory holds nothing. -/
def isEmptyAt (fs : FileSystem) (location : Location) : Bool :=
  fs.entries.all fun e => !(location.isPrefixOf e.1 && location != e.1)

/-- Moves what is at `source` to `target`. A file replaces a file, and a directory an empty one. -/
def renameAt (fs : FileSystem) (source target : Location) (slash : Bool) :
    Except IoFault FileSystem :=
  match fs.get? source with
  | none => .error .notFound
  | some (.file _) =>
    if slash then .error .notADirectory
    else match fs.get? target with
      | some .directory => .error .isADirectory
      | some (.file _) =>
        if source = target then .ok fs
        else .ok ((fs.eraseTree target).moveTree source target)
      | none => .ok (fs.moveTree source target)
  | some .directory =>
    if source = target then .ok fs
    else if source.isPrefixOf target then .error .invalidMove
    else match fs.get? target with
      | some (.file _) => .error .notADirectory
      | some .directory =>
        if fs.isEmptyAt target then .ok ((fs.eraseTree target).moveTree source target)
        else .error .directoryNotEmpty
      | none => .ok (fs.moveTree source target)

/-- Renames an entry. -/
def rename (fs : FileSystem) (source target : Path) : Except IoFault FileSystem := do
  let s ← fs.place source
  let t ← fs.place target
  match s.name?, t.name? with
  | some sourceName, some targetName =>
    fs.renameAt (s.directory ++ [sourceName]) (t.directory ++ [targetName])
      (s.slash || t.slash)
  | _, _ => .error .resourceBusy

/-- Copies the bytes of a file. The target is emptied before the source is read, so that a
file copied onto itself is lost. -/
def copyFile (fs : FileSystem) (source target : Path) : Except IoFault FileSystem := do
  let location ← fs.locate source
  if fs.isDirectoryAt location then .error .isADirectory
  else do
    let emptied ← fs.writeBytes target .empty
    let bytes ← emptied.readBytes source
    emptied.writeBytes target bytes

/-- Makes the directories above a path. -/
def createParents (fs : FileSystem) (path : Path) : Except IoFault Unit × FileSystem :=
  match path.parent? with
  | some parent => fs.createDirectories parent
  | none => (.ok (), fs)

/-- Copies a file and makes the directories above its target. -/
def copyInto (fs : FileSystem) (source target : Path) : Except IoFault Unit × FileSystem :=
  match fs.createParents target with
  | (.error fault, fs') => (.error fault, fs')
  | (.ok (), fs') =>
    match fs'.copyFile source target with
    | .error fault => (.error fault, fs')
    | .ok final => (.ok (), final)

end Scaffold.FileSystem
