import Scaffold.Error
import Scaffold.FileSystem.Access

/-! # Renaming an entry

  One file or directory gets another name. The root cannot be renamed, and
  nothing is ever replaced.
-/

namespace Scaffold.Staging

/-- Gives the entry at `file` below the root another name and returns its path. -/
def renameFile (fs : FileSystem) (root : Path) (file newName : String) :
    Except Error Path × FileSystem :=
  let source := root.join file
  if !fs.isPresent source then (.error (.fileNotFound source), fs)
  else if source.same root then (.error (.invalidTarget source), fs)
  else if source.fileName? = some newName then (.ok source, fs)
  else if fs.isPresent (source.withFileName newName) then
    (.error (.targetExists (source.withFileName newName)), fs)
  else match fs.rename source (source.withFileName newName) with
    | .error fault => (.error (.io fault), fs)
    | .ok fs' => (.ok (source.withFileName newName), fs')

end Scaffold.Staging
