import Scaffold.Builtin

/-! # The variable environment

  An ordered mapping from names to texts and built-ins. A name keeps its place
  when it is bound again.

  - `Environment.initial`: the project folder and every built-in.
  - `set`, `get?`, `text?`, `validator?`: binding and look-up.
-/

namespace Scaffold

/-! ### Bindings -/

/-- What a name stands for. -/
inductive Binding where
  /-- A text. -/
  | text (text : String)
  /-- A built-in callable. -/
  | builtin (builtin : Builtin)
  deriving DecidableEq, Repr

/-- Names and their values in the order of their first assignment. -/
structure Environment where
  /-- The bindings; no name occurs twice in an environment built by `set`. -/
  bindings : List (String × Binding) := []
  deriving DecidableEq, Repr

namespace Environment

/-! ### Operations -/

/-- Replaces the value of the first pair with this name, or adds a pair at the end. -/
def insertPair (name : String) (value : Binding) :
    List (String × Binding) → List (String × Binding)
  | [] => [(name, value)]
  | (n, v) :: rest =>
    if n = name then (n, value) :: rest else (n, v) :: insertPair name value rest

/-- Binds a name. -/
def set (env : Environment) (name : String) (value : Binding) : Environment :=
  ⟨insertPair name value env.bindings⟩

/-- Binds a name to a text. -/
def setText (env : Environment) (name text : String) : Environment :=
  env.set name (.text text)

/-- The value of a name. -/
def get? (env : Environment) (name : String) : Option Binding := env.bindings.lookup name

/-- The value of a name that stands for a text. -/
def text? (env : Environment) (name : String) : Option String :=
  match env.get? name with
  | some (.text text) => some text
  | _ => none

/-- The validator that a name stands for; texts and converters do not count. -/
def validator? (env : Environment) (name : String) : Option Builtin :=
  match env.get? name with
  | some (.builtin builtin) => if builtin.kind = .validator then some builtin else none
  | _ => none

/-- The names in order. -/
def names (env : Environment) : List String := env.bindings.map (·.1)

/-! ### The start of a run -/

/-- The name of the destination folder. -/
def projectFolder : String := "projectFolder"

/-- The name of the accepted answer while a transform is expanded. -/
def transformValue : String := "value"

/-- The environment of a new run: the project folder, then every built-in under its own name. -/
def initial (folder : String) : Environment :=
  Builtin.all.foldl (fun env builtin => env.set builtin.name (.builtin builtin))
    (({} : Environment).setText projectFolder folder)

end Environment

end Scaffold
