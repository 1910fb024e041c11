import Scaffold.FileSystem.Access
import Scaffold.Staging.Selection

/-! # Moving files

  Files that match a pattern move into one directory and keep their names. The
  directory is made if nothing is there. No file ever replaces another one.
-/

namespace Scaffold.Staging

/-- Where a file goes. -/
def moveTarget (destination file : Path) : Path := destination.join (file.fileName?.getD "")

/-- Moves files in order. A file that is in the directory already stays. -/
def moveEach (destination : Path) :
    List Path → FileSystem → Except Error (List Path) × FileSystem
  | [], fs => (.ok [], fs)
  | file :: rest, fs =>
    if (moveTarget destination file).same file then moveEach destination rest fs
    else if fs.isPresent (moveTarget destination file) then
      (.error (.targetExists (moveTarget destination file)), fs)
    else match fs.rename file (moveTarget destination file) with
      | .error fault => (.error (.io fault), fs)
      | .ok fs' =>
        match moveEach destination rest fs' with
        | (.error e, final) => (.error e, final)
        | (.ok paths, final) => (.ok (moveTarget destination file :: paths), final)

/-- Makes the destination a directory, or refuses it. -/
def openDestination (fs : FileSystem) (destination : Path) : Except Error Unit × FileSystem :=
  if fs.isPresent destination then
    if fs.isFile destination then (.error (.invalidTarget destination), fs) else (.ok (), fs)
  else
    match fs.createDirectories destination with
    | (.error fault, fs') => (.error (.io fault), fs')
    | (.ok (), fs') => (.ok (), fs')

/-- Moves every file that matches the wildcard `source` into the directory `target` below the
root and returns the new paths. -/
def moveFiles (fs : FileSystem) (root : Path) (source target : String) :
    Except Error (List Path) × FileSystem :=
  match Pattern.compile source with
  | .error fault => (.error (.pattern fault), fs)
  | .ok pattern =>
    match filesMatching fs root pattern with
    | .error e => (.error e, fs)
    | .ok found =>
      match openDestination fs (root.join target) with
      | (.error e, fs') => (.error e, fs')
      | (.ok (), fs') => moveEach (root.join target) (found.map (·.path root)) fs'

end Scaffold.Staging
