import Scaffold.Error
import Scaffold.FileSystem.Walk
import Scaffold.Wildcard.Pattern

/-! # Selecting entries of the staging tree

  Every operation on the staging tree first selects the entries it works on and
  changes the tree afterwards, so that no walk sees its own changes.

  - `entries`: all entries below a root, contents first.
  - `collect`: those that are wanted.
  - `templates`: the files that carry the template marker.
  - `filesMatching`, `entriesMatching`: what a pattern selects.
-/

namespace Scaffold.Staging

/-! ### Marked files -/

/-- The extension that marks a file as a template. -/
def templateExtension : String := "ftl"

/-- Whether a path carries the template marker. -/
def isTemplate (path : Path) : Bool := path.extension? == some templateExtension

/-- The path without its template marker. -/
def strip (path : Path) : Path :=
  ⟨String.ofList (path.text.toList.take (path.text.length - (templateExtension.length + 1)))⟩

/-! ### Selections -/

/-- Every entry below a root, contents first. -/
def entries (fs : FileSystem) (root : Path) : Except Error (List FileSystem.Visited) :=
  match fs.walkRoot root with
  | .ok location => .ok (fs.collectContentsFirst location)
  | .error fault => .error (.walk root fault)

/-- Every entry below a root that is wanted, contents first. -/
def collect (fs : FileSystem) (root : Path) (wanted : FileSystem.Visited → Bool) :
    Except Error (List FileSystem.Visited) :=
  (entries fs root).map (·.filter wanted)

/-- Whether a visited entry is a file with the template marker. -/
def isTemplateEntry (v : FileSystem.Visited) : Bool :=
  v.entry.isFile && isTemplate (v.path ⟨""⟩)

/-- Every template below a root. -/
def templates (fs : FileSystem) (root : Path) : Except Error (List FileSystem.Visited) :=
  collect fs root isTemplateEntry

/-- Every entry below a root that a pattern matches. -/
def entriesMatching (fs : FileSystem) (root : Path) (pattern : Pattern) :
    Except Error (List FileSystem.Visited) :=
  collect fs root fun v => pattern.isMatch v.name

/-- Every file below a root that a pattern matches. -/
def filesMatching (fs : FileSystem) (root : Path) (pattern : Pattern) :
    Except Error (List FileSystem.Visited) :=
  collect fs root fun v => v.entry.isFile && pattern.isMatch v.name

end Scaffold.Staging
