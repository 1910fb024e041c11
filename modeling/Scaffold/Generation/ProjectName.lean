import Scaffold.FileSystem.Basic
import Scaffold.FileSystem.Fault
import Scaffold.Path

/-! # The name of the project

  A project is named after the folder that it is generated into.
-/

namespace Scaffold

/-- The name for an output path that ends in no name. -/
def fallbackProjectName : String := "project"

/-- The path seen from the root, where the current directory comes before a relative one. -/
def absolute (fs : FileSystem) (path : Path) : Path :=
  (⟨"/" ++ Text.joinTexts '/' fs.current⟩ : Path).join path.text

/-- The last component of the output path, taken from the root. -/
def projectFolderName (fs : FileSystem) (output : Path) : Except IoFault String :=
  if output.text = "" then .error .emptyPath
  else .ok (((absolute fs output).fileName?).getD fallbackProjectName)

end Scaffold
