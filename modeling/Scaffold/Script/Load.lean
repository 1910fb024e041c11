import Scaffold.Error
import Scaffold.FileSystem.Access
import Scaffold.Json.Parser
import Scaffold.Script.Decode
import Scaffold.Staging.Creation
import Scaffold.Yaml.Parser

/-! # Loading configurations

  A template has its configuration in one of three files. The first name that is
  a file counts, even if its text is wrong.
-/

namespace Scaffold

/-- The configuration that a text describes. -/
def Config.ofText (format : Format) (s : String) : Except DocumentFault Config :=
  match format with
  | .json => Config.ofDocument .json (Json.parse s)
  | .yaml => Config.ofDocument .yaml (Yaml.parse s)

/-- The format of a configuration file, by its name. -/
def Config.formatOf (name : String) : Format :=
  if (Path.mk name).extension? = some "json" then .json else .yaml

/-- The configuration in a file. -/
def Config.ofFile (fs : FileSystem) (path : Path) (format : Format) : Except Error Config :=
  match fs.readText path with
  | .error fault => .error (.io fault)
  | .ok s =>
    match Config.ofText format s with
    | .error fault => .error (.config (.invalid format fault))
    | .ok config => .ok config

/-- The configuration of the template in a directory. -/
def Config.load (fs : FileSystem) (template : Path) : Except Error Config :=
  match Staging.configNames.find? fun name => fs.isFile (template.join name) with
  | some name => Config.ofFile fs (template.join name) (Config.formatOf name)
  | none => .error (.config (.absent template Staging.configNames))

end Scaffold
