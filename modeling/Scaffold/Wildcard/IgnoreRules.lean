import Scaffold.Text.Blank
import Scaffold.Wildcard.Pattern

/-! # Ignore rules

  Which paths of a template never reach the staging tree: three rules that hold
  everywhere, and one rule per line of the template's ignore file. In these
  rules `*` and `?` also match a slash, and a backslash escapes.
-/

namespace Scaffold

/-- The wildcards of ignored paths. -/
structure IgnoreRules where
  /-- One compiled wildcard per rule. -/
  globs : List Wildcard.Glob

namespace IgnoreRules

/-! ### Rules -/

/-- The name of the ignore file. -/
def fileName : String := ".kilnignore"

/-- The rules of every template. -/
def defaults : List String := [".git", ".git/**", "**/.DS_Store"]

/-- How ignore files write wildcards. -/
def dialect : Wildcard.Dialect := ⟨true, true⟩

/-- The rules of an ignore file: its lines without blanks around them, except empty lines and
comments. -/
def effectiveLines (content : String) : List String :=
  ((Text.segments '\n' content.toList).map (Text.dropAround Text.isBlank)).filterMap fun line =>
    match line with
    | [] => none
    | '#' :: _ => none
    | _ => some (String.ofList line)

/-- Compiles rules in order; the first faulty one is reported. -/
def compileAll : List String → Except Wildcard.Fault (List Wildcard.Glob)
  | [] => .ok []
  | rule :: rest => do
    let glob ← Wildcard.Glob.compile dialect rule
    let globs ← compileAll rest
    return glob :: globs

/-- The default rules and those of an ignore file, if there is one. -/
def ofContent (content : Option String) : Except Wildcard.Fault IgnoreRules :=
  (compileAll (defaults ++ (content.map effectiveLines).getD [])).map IgnoreRules.mk

/-- Whether some rule matches a path. -/
def isMatch (rules : IgnoreRules) (relative : String) : Bool :=
  rules.globs.any (·.isMatch relative)

end IgnoreRules

end Scaffold
