import Scaffold.Error
import Scaffold.FileSystem.Access
import Scaffold.Template.Render

/-! # Rendering files

  Template files are rendered against an environment. They can include other
  files below the same root, and none outside of it.
-/

namespace Scaffold

/-! ### Included files -/

/-- Whether a component leads neither up nor to the root. -/
def staysBelow : Path.Component → Bool
  | .normal _ | .current => true
  | .root | .parent => false

/-- Loads a template from below a root. -/
def loadBelow (fs : FileSystem) (root : Path) (name : String) : Template.Loaded :=
  if (Path.mk name).components.all staysBelow then
    match fs.readText (root.join name) with
    | .ok text => .found text
    | .error .notFound => .missing
    | .error _ => .unreadable
  else .missing

/-! ### Rendering -/

/-- Expands a text. -/
def expandText (env : Environment) (text : String) : Except Error String :=
  match Template.expand env text with
  | .ok result => .ok result
  | .error failure => .error (.template failure)

/-- Whether a condition holds. -/
def conditionHolds (env : Environment) (condition : String) : Except Error Bool :=
  match Template.isTrue env condition with
  | .ok result => .ok result
  | .error failure => .error (.template failure)

/-- Renders the file at a path relative to a root. -/
def renderFile (fs : FileSystem) (root : Path) (relative : String) (env : Environment) :
    Except Error String :=
  match fs.readText (root.join relative) with
  | .error fault => .error (.io fault)
  | .ok text =>
    match Template.renderNamed (loadBelow fs root) env relative text with
    | .ok result => .ok result
    | .error failure => .error (.template failure)

end Scaffold
