/-! # Wildcard tokens

  The pieces of a wildcard, the two dialects in which wildcards are written, and
  the reasons for which a text is no wildcard.
-/

namespace Scaffold.Wildcard

/-! ### Tokens -/

/-- A piece of a wildcard. -/
inductive Token where
  /-- A character that stands for itself. -/
  | literal (c : Char)
  /-- Any one byte: `?`. -/
  | any
  /-- Any run of bytes: `*`. -/
  | zeroOrMore
  /-- Any directories at the start: a leading `**` with its slash. -/
  | recursivePrefix
  /-- Everything below: a slash and a final `**`. -/
  | recursiveSuffix
  /-- A slash, or any directories between two slashes. -/
  | recursiveZeroOrMore
  /-- One byte of the ranges, or one outside them. -/
  | charClass (negated : Bool) (ranges : List (Char × Char))
  /-- One of several sequences: what stands between braces. -/
  | alternates (branches : List (List Token))
  deriving Repr

/-- How a wildcard is written and what it may match. -/
structure Dialect where
  /-- A backslash makes the next character stand for itself. -/
  escapes : Bool
  /-- `*` and `?` match a slash too. -/
  crossing : Bool
  deriving DecidableEq, Repr

/-! ### Faults -/

/-- Why a text is no wildcard. -/
inductive Cause where
  /-- A bracket is not closed. -/
  | unclosedClass
  /-- A range runs backwards. -/
  | invalidRange (first last : Char)
  /-- A brace is closed that was not opened. -/
  | unopenedAlternates
  /-- A brace is not closed. -/
  | unclosedAlternates
  /-- Nothing follows a backslash. -/
  | danglingEscape
  /-- Braces are nested too deeply. -/
  | tooDeep
  deriving DecidableEq, Repr

/-- The text of a cause. -/
def Cause.message : Cause → String
  | .unclosedClass => "unclosed character class; missing ']'"
  | .invalidRange first last =>
    "invalid range; '" ++ first.toString ++ "' > '" ++ last.toString ++ "'"
  | .unopenedAlternates =>
    "unopened alternate group; missing '\x7b' (maybe escape '\x7d' with '[\x7d]'?)"
  | .unclosedAlternates =>
    "unclosed alternate group; missing '\x7d' (maybe escape '\x7b' with '[\x7b]'?)"
  | .danglingEscape => "dangling '\\'"
  | .tooDeep => "exceeded the maximum number of nested groups"

/-- A text that is no wildcard, and why. -/
structure Fault where
  /-- The text. -/
  glob : String
  /-- The reason. -/
  cause : Cause
  deriving DecidableEq, Repr

/-- The text of a fault. -/
def Fault.message (fault : Fault) : String :=
  "error parsing glob '" ++ fault.glob ++ "': " ++ fault.cause.message

end Scaffold.Wildcard
