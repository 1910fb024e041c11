import Scaffold.Json.Parser
import Scaffold.Json.Writer
import Scaffold.Text.Blank

/-! # Supplied answers

  Answers that are given before a run, as the members of a JSON map. A text is
  taken as it is, any other value as its JSON text. Everything but a map is the
  same as no answers.
-/

namespace Scaffold

/-- Answers by the name of the variable. -/
structure Answers where
  /-- The answers; no name occurs twice. -/
  members : List (String × String) := []
  deriving DecidableEq, Repr

namespace Answers

/-- The answer to the question for a variable. -/
def get? (answers : Answers) (name : String) : Option String := answers.members.lookup name

/-- A value as an answer. -/
def textOf : Content → String
  | .scalar (.text s) => s
  | c => Json.write c

/-- The answers that a value holds. -/
def ofContent : Content → Answers
  | .map entries => ⟨Json.orderMembers (entries.map fun e => (Json.keyText e.1, textOf e.2))⟩
  | _ => {}

/-- The answers of a JSON text. Blank text is no answers. -/
def parse (s : String) : Except DocumentFault Answers :=
  if Text.trim s = "" then .ok {}
  else
    let document := Json.parse (Text.trim s)
    match document.root.content .json 0 with
    | .error fault => .error fault
    | .ok c => if document.complete then .ok (ofContent c) else .error .malformed

end Answers

end Scaffold
