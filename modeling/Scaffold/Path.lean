import Scaffold.Text.Split

/-! # Paths

  A path is a text. Its components are what lies between slashes; doubled
  slashes and inner `.` names add nothing, while `..` stays as it is written.
  All operations are lexical and look at no file system.

  - `components`: the meaning of the text, on which comparison rests.
  - `join`, `parent?`, `fileName?`, `withFileName`: building and taking apart.
  - `relativeTo?`: the part below a root, joined by single slashes.
-/

namespace Scaffold

/-- A path as it was written. -/
structure Path where
  /-- The text. -/
  text : String
  deriving DecidableEq, Repr

namespace Path

/-! ### Components -/

/-- One step of a path. -/
inductive Component where
  /-- The start of an absolute path. -/
  | root
  /-- A leading `.`. -/
  | current
  /-- The name `..`. -/
  | parent
  /-- Any other name. -/
  | normal (name : String)
  deriving DecidableEq, Repr

/-- The text of a component. -/
def Component.text : Component → String
  | .root => "/"
  | .current => "."
  | .parent => ".."
  | .normal name => name

/-- The name that the component stands for, if it is an ordinary one. -/
def Component.normal? : Component → Option String
  | .normal name => some name
  | _ => none

/-- The component of a segment behind the first one. -/
def inner (segment : List Char) : Option Component :=
  if segment = [] ∨ segment = ['.'] then none
  else if segment = ['.', '.'] then some .parent
  else some (.normal (String.ofList segment))

/-- The segments of a path: its head, which no trimming removes, and its body. -/
structure Parts where
  /-- The text before the body: empty, a slash, or a leading dot. -/
  head : List Component
  /-- The segments of the body. -/
  body : List (List Char)

/-- Cuts a path into head and body. -/
def parts (path : Path) : Parts :=
  match Text.segments '/' path.text.toList with
  | [] => ⟨[], []⟩
  | [[]] => ⟨[], []⟩
  | [] :: rest => ⟨[.root], rest⟩
  | ['.'] :: rest => ⟨[.current], rest⟩
  | body => ⟨[], body⟩

/-- The components of a path. -/
def components (path : Path) : List Component :=
  path.parts.head ++ path.parts.body.filterMap inner

/-- Whether the path starts at the root. -/
def isAbsolute (path : Path) : Bool :=
  match path.text.toList with
  | '/' :: _ => true
  | _ => false

/-- Two paths are the same if their components are. -/
def same (p q : Path) : Bool := p.components == q.components

/-! ### Building paths -/

/-- Appends a path. An absolute path replaces the base. -/
def join (base : Path) (rest : String) : Path :=
  if isAbsolute ⟨rest⟩ then ⟨rest⟩
  else
    let needsSlash := match base.text.toList.getLast? with
      | none => false
      | some c => c ≠ '/'
    ⟨base.text ++ (if needsSlash then "/" else "") ++ rest⟩

/-! ### Taking paths apart -/

/-- Removes the segments at the end that add nothing. -/
def trimBody (body : List (List Char)) : List (List Char) :=
  (body.reverse.dropWhile fun s => (inner s).isNone).reverse

/-- The text of a head and a body. -/
def ofParts (head : List Component) (body : List (List Char)) : Path :=
  let text := String.ofList (Text.joinWith '/' body)
  match head, body with
  | .root :: _, _ => ⟨"/" ++ text⟩
  | .current :: _, [] => ⟨"."⟩
  | .current :: _, _ => ⟨"./" ++ text⟩
  | _, _ => ⟨text⟩

/-- The path without its last component. The root and the empty path have none. -/
def parent? (path : Path) : Option Path :=
  let p := path.parts
  match (trimBody p.body).reverse with
  | _ :: before => some (ofParts p.head (trimBody before.reverse))
  | [] => if p.head = [.current] then some ⟨""⟩ else none

/-- The last component, if it is an ordinary name. -/
def fileName? (path : Path) : Option String :=
  path.components.getLast?.bind Component.normal?

/-- Replaces the last component, or appends to a path that does not end in a name. -/
def withFileName (path : Path) (name : String) : Path :=
  match path.fileName? with
  | some _ => ((path.parent?).getD ⟨""⟩).join name
  | none => path.join name

/-- The part of a file name behind its last dot. A name that only starts with a dot has none. -/
def extensionOf (name : String) : Option String :=
  match (Text.segments '.' name.toList).reverse with
  | last :: before :: rest =>
    if rest = [] ∧ before = [] then none else some (String.ofList last)
  | _ => none

/-- The extension of the last component. -/
def extension? (path : Path) : Option String := path.fileName?.bind extensionOf

/-! ### Relative paths -/

/-- What is left of a list behind a prefix. -/
def afterPrefix? : List Component → List Component → Option (List Component)
  | [], rest => some rest
  | p :: ps, c :: cs => if p = c then afterPrefix? ps cs else none
  | _ :: _, [] => none

/-- The components of `path` behind those of `root`, joined by slashes. -/
def relativeTo? (root path : Path) : Option String :=
  (afterPrefix? root.components path.components).map fun rest =>
    Text.joinTexts '/' (rest.map Component.text)

/-- The text with every backslash turned into a slash. -/
def toSlashes (s : String) : String :=
  String.ofList (s.toList.map fun c => if c = '\\' then '/' else c)

end Path

end Scaffold
