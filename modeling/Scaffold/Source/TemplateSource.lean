import Scaffold.Error
import Scaffold.FileSystem.Access
import Scaffold.Source.Address

/-! # Where templates come from

  A template is a directory, or a repository that is fetched first, into a
  directory of its own.

  - `classify`: the source that a text names.
  - `load`: the template, with all files once it is there.
-/

namespace Scaffold

/-- Where a template comes from. -/
inductive TemplateSource where
  /-- A directory. -/
  | directory (path : Path)
  /-- A repository. -/
  | repository (address : String)
  deriving DecidableEq, Repr

/-- A template that is ready to be staged. -/
structure LoadedTemplate where
  /-- The directory of the template. -/
  root : Path
  /-- All files, with those of the template. -/
  fs : FileSystem
  /-- The directory that a repository was fetched into. -/
  checkout : Option Path

namespace TemplateSource

/-! ### Names of sources -/

/-- How the address of a repository on a host starts. -/
def hostedMark : List Char := ['g', 'i', 't', '@']

/-- The source that a text names. -/
def classify (hosts : Source.HostRules) (s : String) : TemplateSource :=
  if Source.isRepositoryAddress hosts s || hostedMark.isPrefixOf s.toList then .repository s
  else .directory ⟨s⟩

/-- The source that a text names for the running program. -/
def ofString (s : String) : TemplateSource := classify Source.knownHosts s

/-- The text that names a source to the user. -/
def display : TemplateSource → String
  | .directory path => "local path: '" ++ path.text ++ "'"
  | .repository address => "git repository: '" ++ address ++ "'"

/-! ### Loading -/

/-- The root of a template in a directory. -/
def loadDirectory (fs : FileSystem) (path : Path) : Except Error Path :=
  if fs.isDirectory path then .ok path else .error (.templateMissing path)

/-- Fetches a repository into the new directory `checkout`. What a repository holds, or why it
cannot be fetched, is told by `clone`. If it fails the directory goes away again. -/
def loadRepository (fs : FileSystem) (checkout : Path)
    (clone : String → Except String FileSystem) (address : String) :
    Except Error LoadedTemplate := do
  let made ← (fs.createDirectory checkout).mapError Error.io
  let place ← (made.locate checkout).mapError Error.io
  let tree ← (clone address).mapError Error.fetch
  return ⟨checkout, made.plant place tree, some checkout⟩

/-- The template of a source. -/
def load (fs : FileSystem) (checkout : Path) (clone : String → Except String FileSystem) :
    TemplateSource → Except Error LoadedTemplate
  | .directory path => (loadDirectory fs path).map fun root => ⟨root, fs, none⟩
  | .repository address => loadRepository fs checkout clone address

end TemplateSource

end Scaffold
