import Scaffold.Path
import Scaffold.Wildcard.Matching
import Scaffold.Wildcard.Parser

/-! # Patterns

  Compiled wildcards. The patterns of scripts keep `*` and `?` within one name
  and read a backslash as a slash, in the pattern as in the path.

  - `Glob`: a compiled wildcard of either dialect.
  - `Pattern`: a script's wildcard for paths below the staging root.
-/

namespace Scaffold.Wildcard

/-! ### Nesting -/

/-- How many members a token adds to its sequence. -/
def Token.size : Token → Nat
  | .literal c => (charBytes c).length
  | .recursiveSuffix => 2
  | .alternates branches => if allVoid branches then 0 else 1
  | _ => 1

mutual

/-- How many levels a token has. -/
def Token.depth : Token → Nat
  | .literal _ => 0
  | .any | .recursiveSuffix => 1
  | .zeroOrMore => 2
  | .recursivePrefix | .recursiveZeroOrMore => 4
  | .charClass _ ranges => if ranges.length ≤ 1 then 1 else 2
  | .alternates branches =>
    if allVoid branches then 0
    else branchesDepth branches + (if branches.countP (!seqVoid ·) ≤ 1 then 1 else 2)

/-- The greatest number of levels of a token in a sequence. -/
def seqDepth : List Token → Nat
  | [] => 0
  | t :: ts => max t.depth (seqDepth ts)

/-- The greatest number of levels of a branch: one more if it has several members. -/
def branchesDepth : List (List Token) → Nat
  | [] => 0
  | b :: bs =>
    max (seqDepth b + (if (b.map Token.size).sum ≤ 1 then 0 else 1)) (branchesDepth bs)

end

/-- The deepest nesting that a wildcard may have. -/
def depthLimit : Nat := 250

/-! ### Compiled wildcards -/

/-- A compiled wildcard. -/
structure Glob where
  /-- The tokens. -/
  tokens : List Token
  /-- Whether `*` and `?` match a slash too. -/
  crossing : Bool

/-- Compiles a wildcard. -/
def Glob.compile (dialect : Dialect) (glob : String) : Except Fault Glob :=
  match parse dialect glob with
  | .error cause => .error ⟨glob, cause⟩
  | .ok tokens =>
    if depthLimit < seqDepth tokens + 1 then .error ⟨glob, .tooDeep⟩
    else .ok ⟨tokens, dialect.crossing⟩

/-- Whether the wildcard matches the whole path. A wildcard that is nothing but a leading
double star matches everything. -/
def Glob.isMatch (glob : Glob) (path : String) : Bool :=
  match glob.tokens with
  | [.recursivePrefix] => true
  | tokens => seqMatches glob.crossing tokens path.toUTF8.toList

end Scaffold.Wildcard

namespace Scaffold

/-! ### Patterns of scripts -/

/-- A script's wildcard for paths below the staging root. -/
structure Pattern where
  /-- The compiled wildcard. -/
  glob : Wildcard.Glob

/-- How scripts write wildcards: no escapes, and within one name. -/
def Pattern.dialect : Wildcard.Dialect := ⟨false, false⟩

/-- Compiles a script's wildcard. -/
def Pattern.compile (text : String) : Except Wildcard.Fault Pattern :=
  (Wildcard.Glob.compile Pattern.dialect (Path.toSlashes text)).map Pattern.mk

/-- Whether a pattern matches a path below the root. -/
def Pattern.isMatch (pattern : Pattern) (relative : String) : Bool :=
  pattern.glob.isMatch (Path.toSlashes relative)

end Scaffold
