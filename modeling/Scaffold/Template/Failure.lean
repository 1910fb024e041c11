/-! # Failures of templates

  Why a template cannot be read or rendered, and where.
-/

namespace Scaffold.Template

/-! ### Kinds -/

/-- What went wrong. -/
inductive FailureKind where
  /-- The text is malformed. -/
  | malformed
  /-- An escape in a text literal is malformed. -/
  | badEscape
  /-- An operation does not fit its operands. -/
  | invalidOperation
  /-- A value is undefined where one is needed. -/
  | undefinedValue
  /-- A template does not exist. -/
  | templateNotFound
  /-- A filter does not exist. -/
  | unknownFilter
  /-- A test does not exist. -/
  | unknownTest
  /-- A function does not exist. -/
  | unknownFunction
  /-- A value has no method of this name. -/
  | unknownMethod
  /-- A block does not exist. -/
  | unknownBlock
  /-- A call lacks an argument. -/
  | missingArgument
  /-- A call has too many arguments. -/
  | tooManyArguments
  /-- A value cannot be taken apart. -/
  | cannotUnpack
  /-- An included template failed. -/
  | badInclude
  /-- A parent block failed. -/
  | badBlock
  /-- A value has no JSON form. -/
  | badSerialization
  deriving DecidableEq, Repr

/-- The text of a kind. -/
def FailureKind.message : FailureKind → String
  | .malformed => "syntax error"
  | .badEscape => "bad string escape"
  | .invalidOperation => "invalid operation"
  | .undefinedValue => "undefined value"
  | .templateNotFound => "template not found"
  | .unknownFilter => "unknown filter"
  | .unknownTest => "unknown test"
  | .unknownFunction => "unknown function"
  | .unknownMethod => "unknown method"
  | .unknownBlock => "unknown block"
  | .missingArgument => "missing argument"
  | .tooManyArguments => "too many arguments"
  | .cannotUnpack => "cannot unpack"
  | .badInclude => "could not render include"
  | .badBlock => "could not render block"
  | .badSerialization => "could not serialize to value"

/-! ### Failures -/

/-- Where something went wrong. -/
structure Origin where
  /-- What went wrong. -/
  kind : FailureKind
  /-- The name of the template. -/
  template : Option String
  /-- The line, counted from one. -/
  line : Option Nat
  deriving DecidableEq, Repr

/-- A failure, with the innermost one behind it. -/
structure Failure where
  /-- What went wrong. -/
  kind : FailureKind
  /-- The name of the template. -/
  template : Option String := none
  /-- The line, counted from one. -/
  line : Option Nat := none
  /-- The innermost failure that caused this one. -/
  cause : Option Origin := none
  deriving DecidableEq, Repr

namespace Failure

/-- A failure without a place. -/
def ofKind (kind : FailureKind) : Failure := { kind }

/-- A failure with a cause. -/
def because (kind : FailureKind) (inner : Failure) : Failure :=
  { kind, cause := some (inner.cause.getD ⟨inner.kind, inner.template, inner.line⟩) }

/-- Adds a place to a failure that has none. -/
def locate (template : String) (line : Nat) (failure : Failure) : Failure :=
  if failure.line.isSome then failure
  else { failure with template := some template, line := some line }

/-- The text of a failure. -/
def message (failure : Failure) : String :=
  failure.kind.message ++
    match failure.template, failure.line with
    | some template, some line => " (in " ++ template ++ ":" ++ toString line ++ ")"
    | _, _ => ""

end Failure

/-- A result of the template language. -/
abbrev Outcome (α : Type) := Except Failure α

/-- Refuses with a failure that has no place yet. -/
def refuse {α : Type} (kind : FailureKind) : Outcome α := .error (.ofKind kind)

end Scaffold.Template
