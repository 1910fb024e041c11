import Scaffold.FileSystem.Basic
import Scaffold.FileSystem.Fault
import Scaffold.Path

/-! # From paths to locations

  How the operating system reads a path: name by name from the root or the
  current directory. Every name but the last has to be a directory, `.` and
  `..` included, and a slash at the end asks for a directory too.

  - `locate`: the location of an existing entry.
  - `place`: the directory and the last name of an entry that may be missing.
-/

namespace Scaffold.FileSystem

/-! ### Following names -/

/-- The location that a name leads to from a directory. -/
def step (fs : FileSystem) (directory : Location) (name : String) : Except IoFault Location :=
  if name = "" ∨ name = "." then .ok directory
  else if name = ".." then .ok directory.dropLast
  else if nameLimit < name.utf8ByteSize then .error .invalidFilename
  else if (fs.get? (directory ++ [name])).isSome then .ok (directory ++ [name])
  else .error .notFound

/-- The location that a list of names leads to. -/
def follow (fs : FileSystem) (location : Location) : List String → Except IoFault Location
  | [] => .ok location
  | name :: rest =>
    if fs.isDirectoryAt location then
      match fs.step location name with
      | .ok next => fs.follow next rest
      | .error fault => .error fault
    else .error .notADirectory

/-- The names of a path, empty ones included, after refusing what is no path at all. No path is
refused for its length. -/
def pathNames (path : Path) : Except IoFault (List String) :=
  if path.text = "" then .error .notFound
  else if path.text.toList.contains '\x00' then .error .zeroByte
  else .ok (Text.splitAt '/' path.text)

/-- Where the names of a path are followed from. -/
def origin (fs : FileSystem) (path : Path) : Location :=
  if path.isAbsolute then [] else fs.current

/-- The location of an existing entry. -/
def locate (fs : FileSystem) (path : Path) : Except IoFault Location := do
  let names ← pathNames path
  fs.follow (fs.origin path) names

/-! ### The place of an entry that may be missing -/

/-- A place in an existing directory. -/
structure Place where
  /-- The directory. -/
  directory : Location
  /-- The last name, unless it is `.`, `..` or the root itself. -/
  name? : Option String
  /-- Whether a slash follows the name. -/
  slash : Bool

/-- The directory and the last name of a path. -/
def place (fs : FileSystem) (path : Path) : Except IoFault Place := do
  let names ← pathNames path
  let start := fs.origin path
  match names.reverse.dropWhile (· == "") with
  | [] => .ok ⟨start, none, false⟩
  | last :: before =>
    let directory ← fs.follow start before.reverse
    if !fs.isDirectoryAt directory then .error .notADirectory
    else if last = "." ∨ last = ".." then .ok ⟨directory, none, false⟩
    else if nameLimit < last.utf8ByteSize then .error .invalidFilename
    else .ok ⟨directory, some last, names.getLast? == some ""⟩

/-! ### Questions -/

/-- Whether something is at the path. -/
def isPresent (fs : FileSystem) (path : Path) : Bool := (fs.locate path).isOk

/-- Whether a directory is at the path. -/
def isDirectory (fs : FileSystem) (path : Path) : Bool :=
  match fs.locate path with
  | .ok location => fs.isDirectoryAt location
  | .error _ => false

/-- Whether a file is at the path. -/
def isFile (fs : FileSystem) (path : Path) : Bool :=
  match fs.locate path with
  | .ok location => fs.isFileAt location
  | .error _ => false

end Scaffold.FileSystem
