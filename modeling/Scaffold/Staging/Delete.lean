import Scaffold.FileSystem.Access
import Scaffold.Staging.Selection

/-! # Deleting entries

  Everything that matches a pattern goes, directories with all they hold. The
  contents of a directory come before it, so nothing vanishes before its turn.
-/

namespace Scaffold.Staging

/-- Removes an entry, whatever it is. -/
def deleteOne (fs : FileSystem) (path : Path) : Except IoFault FileSystem := do
  let location ← fs.locate path
  if fs.isDirectoryAt location then fs.removeTree path else fs.removeFile path

/-- Deletes entries in order. -/
def deleteEach : List Path → FileSystem → Except Error (List Path) × FileSystem
  | [], fs => (.ok [], fs)
  | path :: rest, fs =>
    match deleteOne fs path with
    | .error fault => (.error (.io fault), fs)
    | .ok fs' =>
      match deleteEach rest fs' with
      | (.error e, final) => (.error e, final)
      | (.ok paths, final) => (.ok (path :: paths), final)

/-- Deletes every entry below a root that the wildcard matches and returns the paths. -/
def deleteFiles (fs : FileSystem) (root : Path) (wildcard : String) :
    Except Error (List Path) × FileSystem :=
  match Pattern.compile wildcard with
  | .error fault => (.error (.pattern fault), fs)
  | .ok pattern =>
    match entriesMatching fs root pattern with
    | .error e => (.error e, fs)
    | .ok found => deleteEach (found.map (·.path root)) fs

end Scaffold.Staging
