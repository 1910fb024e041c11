import Scaffold.Error
import Scaffold.FileSystem.Walk

/-! # Publication

  The files of the staging tree are copied to the same place below the
  destination. Directories are made as files need them; files that are there
  already are replaced.
-/

namespace Scaffold.Staging

/-- Publishes files in order. -/
def publishEach (root destination : Path) :
    List FileSystem.Visited → FileSystem → Except Error (List Path) × FileSystem
  | [], fs => (.ok [], fs)
  | v :: rest, fs =>
    match fs.copyInto (v.path root) (destination.join v.name) with
    | (.error fault, fs') => (.error (.copy (v.path root) fault), fs')
    | (.ok (), fs') =>
      match publishEach root destination rest fs' with
      | (.error e, final) => (.error e, final)
      | (.ok paths, final) => (.ok (destination.join v.name :: paths), final)

/-- Copies every file below `root` to its place below `destination` and returns the written
paths. -/
def publish (fs : FileSystem) (root destination : Path) :
    Except Error (List Path) × FileSystem :=
  match fs.walkRoot root with
  | .error fault => (.error (.walk root fault), fs)
  | .ok location =>
    publishEach root destination ((fs.collectAsListed location).filter (·.entry.isFile)) fs

end Scaffold.Staging
