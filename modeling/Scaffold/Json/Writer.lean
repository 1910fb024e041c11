import Scaffold.Document.Node
import Scaffold.Text.JsonString

/-! # Writing JSON

  A value as JSON text in one line. The members of a map come in the order of
  their keys, and of members with one key the last one counts.
-/

namespace Scaffold.Json

/-- Puts a member into an ordered list of members, in place of one with its key. -/
def insertMember {α : Type} (key : String) (value : α) :
    List (String × α) → List (String × α)
  | [] => [(key, value)]
  | (k, v) :: rest =>
    if key = k then (key, value) :: rest
    else if key < k then (key, value) :: (k, v) :: rest
    else (k, v) :: insertMember key value rest

/-- Members in the order of their keys; of equal keys the last member counts. -/
def orderMembers {α : Type} (members : List (String × α)) : List (String × α) :=
  members.foldl (fun ordered m => insertMember m.1 m.2 ordered) []

/-- A scalar as JSON text. -/
def writeScalar : Scalar → String
  | .null => "null"
  | .bool b => if b then "true" else "false"
  | .int i | .wide i => toString i
  | .float f => Decimal.json.write f
  | .text s => Text.jsonString s

/-- The text of a key. -/
def keyText : Content → String
  | .scalar (.text s) => s
  | .scalar s => writeScalar s
  | _ => ""

mutual

/-- A value as JSON text. -/
def write : Content → String
  | .scalar s => writeScalar s
  | .list items => "[" ++ ",".intercalate (writeItems items) ++ "]"
  | .map entries =>
    let members := (orderMembers (writeMembers entries)).map fun m =>
      Text.jsonString m.1 ++ ":" ++ m.2
    "\x7b" ++ ",".intercalate members ++ "\x7d"

/-- Items as JSON texts. -/
def writeItems : List Content → List String
  | [] => []
  | c :: rest => write c :: writeItems rest

/-- Keys and values as texts. -/
def writeMembers : List (Content × Content) → List (String × String)
  | [] => []
  | (k, v) :: rest => (keyText k, write v) :: writeMembers rest

end

end Scaffold.Json
