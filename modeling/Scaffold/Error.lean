import Scaffold.Document.Format
import Scaffold.FileSystem.Fault
import Scaffold.Path
import Scaffold.Template.Failure
import Scaffold.Wildcard.Token

/-! # Errors

  Why a run stops. Every error is final, and what was done before it stays.
-/

namespace Scaffold

/-! ### Causes -/

/-- What is wrong with a configuration. -/
inductive ConfigFault where
  /-- The template has none; the names that were tried. -/
  | absent (directory : Path) (tried : List String)
  /-- It does not describe a script. -/
  | invalid (format : Format) (fault : DocumentFault)
  /-- The answers are no JSON. -/
  | answers
  deriving DecidableEq, Repr

/-- The text of a configuration fault. -/
def ConfigFault.message : ConfigFault → String
  | .absent directory tried =>
    "No configuration file found in '" ++ directory.text ++ "' (tried: " ++
      ", ".intercalate tried ++ ")"
  | .invalid format fault => "Invalid " ++ format.name ++ " configuration: " ++ fault.message
  | .answers => "Failed to parse answers as JSON: " ++ DocumentFault.malformed.message

/-- Why a question has no answer. -/
inductive PromptFault where
  /-- All scripted replies are used up. -/
  | exhausted
  /-- The terminal gives no reply; its reason. -/
  | terminal (reason : String)
  deriving DecidableEq, Repr

/-- The text of a prompt fault. -/
def PromptFault.message : PromptFault → String
  | .exhausted => "no scripted answers left"
  | .terminal reason => "IO error: " ++ reason

/-! ### Errors -/

/-- Why a run stops. -/
inductive Error where
  /-- A file operation was refused. -/
  | io (fault : IoFault)
  /-- A directory could not be walked. -/
  | walk (path : Path) (fault : IoFault)
  /-- A template could not be rendered. -/
  | template (failure : Template.Failure)
  /-- A wildcard is malformed. -/
  | pattern (fault : Wildcard.Fault)
  /-- A template repository could not be fetched. -/
  | fetch (reason : String)
  /-- There is nothing to rename. -/
  | fileNotFound (path : Path)
  /-- Something is where a file should go. -/
  | targetExists (path : Path)
  /-- Files should go where no directory is. -/
  | invalidTarget (path : Path)
  /-- A file could not be copied. -/
  | copy (path : Path) (fault : IoFault)
  /-- A script names a validator that there is not. -/
  | unknownValidator (name : String)
  /-- A validator rejected an answer that was supplied beforehand. -/
  | rejectedAnswer (name answer reason : String)
  /-- A configuration is missing or wrong. -/
  | config (fault : ConfigFault)
  /-- A question has no answer. -/
  | prompt (fault : PromptFault)
  /-- The template is no directory. -/
  | templateMissing (path : Path)
  /-- The output is there already. -/
  | outputExists (path : Path)
  deriving DecidableEq, Repr

/-- The text of an error. -/
def Error.message : Error → String
  | .io fault => "IO error: " ++ fault.message ++ "."
  | .walk path fault =>
    "Failed to walk directory: IO error for operation on " ++ path.text ++ ": " ++
      fault.message ++ "."
  | .template failure => "Template error: " ++ failure.message ++ "."
  | .pattern fault => "Invalid pattern: " ++ fault.message ++ "."
  | .fetch reason => "Failed to clone template repository: " ++ reason ++ "."
  | .fileNotFound path => "Cannot rename '" ++ path.text ++ "' because it does not exist."
  | .targetExists path =>
    "Cannot place a file at '" ++ path.text ++ "' because it already exists."
  | .invalidTarget path =>
    "Cannot move files into '" ++ path.text ++ "' because it is not a directory."
  | .copy path fault => "Failed to copy '" ++ path.text ++ "': " ++ fault.message ++ "."
  | .unknownValidator name => "Unknown validator '" ++ name ++ "'."
  | .rejectedAnswer name answer reason =>
    "Validation error: answer '" ++ answer ++ "' for '" ++ name ++ "' was rejected: " ++
      reason ++ "."
  | .config fault => "Configuration error: " ++ fault.message ++ "."
  | .prompt fault => "Prompt error: " ++ fault.message ++ "."
  | .templateMissing path => "Template does not exist: " ++ path.text ++ "."
  | .outputExists path =>
    "Output directory '" ++ path.text ++ "' already exists. Use --force to overwrite it."

end Scaffold
