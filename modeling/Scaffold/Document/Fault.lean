/-! # Faults of documents

  Why a document does not describe what it should, in the words of the report.
-/

namespace Scaffold

/-- What is wrong with a document. -/
inductive DocumentFault where
  /-- The text breaks the rules of its format. -/
  | malformed
  /-- A value is of another kind than expected. -/
  | invalidType (found expected : String)
  /-- A value is of the right kind but not allowed. -/
  | invalidValue (found expected : String)
  /-- A field occurs twice. -/
  | duplicateField (name : String)
  /-- A field is missing. -/
  | missingField (name : String)
  /-- A name is none of the names that are allowed. -/
  | unknownVariant (name : String) (allowed : List String)
  deriving DecidableEq, Repr

/-- A name between backquotes. -/
def backquoted (name : String) : String := "\x60" ++ name ++ "\x60"

/-- The text of a fault. -/
def DocumentFault.message : DocumentFault → String
  | .malformed => "malformed document"
  | .invalidType found expected => "invalid type: " ++ found ++ ", expected " ++ expected
  | .invalidValue found expected => "invalid value: " ++ found ++ ", expected " ++ expected
  | .duplicateField name => "duplicate field " ++ backquoted name
  | .missingField name => "missing field " ++ backquoted name
  | .unknownVariant name allowed =>
    "unknown variant " ++ backquoted name ++ ", expected one of " ++
      ", ".intercalate (allowed.map backquoted)

end Scaffold
