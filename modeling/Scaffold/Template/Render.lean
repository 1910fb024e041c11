import Scaffold.Environment
import Scaffold.Template.Eval

/-! # Rendering

  From a template and an environment to text.

  - `expand`: a text on its own, which can use no other template.
  - `renderNamed`: a named template that can load others.
-/

namespace Scaffold.Template

/-! ### Names -/

/-- The value of a binding. -/
def bindingValue (name : String) : Binding → Value
  | .text text => .ofText text
  | .builtin builtin => .function (.builtin name builtin)

/-- The names that an environment gives to a template. -/
def contextOf (env : Environment) : List (String × Value) :=
  env.bindings.map fun b => (b.1, bindingValue b.1 b.2)

/-! ### Rendering -/

/-- The state in which a rendering begins. -/
def Machine.start (source : Source) : Machine :=
  { frames := [{ base := .context }]
    template := source.name
    blocks := source.stacks }

/-- Renders a template that has been read. -/
def Source.render (host : Host) (source : Source) : Outcome String := do
  let (_, m) ← (runSource (callsOf host levels) source).run (Machine.start source)
  return m.output

/-- Renders the template of a name and a text. -/
def renderNamed (load : String → Loaded) (env : Environment) (name text : String) :
    Outcome String := do
  let source ← Source.parse name text
  source.render { context := contextOf env, load }

/-- The name of a template that is no file. -/
def inlineName : String := "<string>"

/-- Expands a text on its own. -/
def expand (env : Environment) (text : String) : Outcome String :=
  renderNamed (fun _ => .missing) env inlineName text

/-- Whether a condition holds: it has to expand to exactly `true`. -/
def isTrue (env : Environment) (condition : String) : Outcome Bool := do
  return (← expand env condition) == "true"

end Scaffold.Template
