import Scaffold.Renderer
import Scaffold.Staging.Selection

/-! # Processing templates

  Every marked file is rendered, written without its marker, and removed, one
  after the other. The first failure stops the operation; what was done for the
  files before it stays.
-/

namespace Scaffold.Staging

/-- Renders one template, writes the outcome next to it and removes the template. What was written
stays if the template cannot be removed. -/
def processOne (fs : FileSystem) (root : Path) (env : Environment) (v : FileSystem.Visited) :
    Except Error Unit × FileSystem :=
  match renderFile fs root v.name env with
  | .error e => (.error e, fs)
  | .ok text =>
    match fs.writeBytes (strip (v.path root)) text.toUTF8 with
    | .error fault => (.error (.io fault), fs)
    | .ok written =>
      match written.removeFile (v.path root) with
      | .error fault => (.error (.io fault), written)
      | .ok final => (.ok (), final)

/-- Processes templates in order. -/
def processEach (root : Path) (env : Environment) :
    List FileSystem.Visited → FileSystem → Except Error (List Path) × FileSystem
  | [], fs => (.ok [], fs)
  | v :: rest, fs =>
    match processOne fs root env v with
    | (.error e, fs') => (.error e, fs')
    | (.ok (), fs') =>
      match processEach root env rest fs' with
      | (.error e, final) => (.error e, final)
      | (.ok paths, final) => (.ok (strip (v.path root) :: paths), final)

/-- Processes every template below a root and returns the written paths. -/
def processTemplates (fs : FileSystem) (root : Path) (env : Environment) :
    Except Error (List Path) × FileSystem :=
  match templates fs root with
  | .error e => (.error e, fs)
  | .ok found => processEach root env found fs

end Scaffold.Staging
