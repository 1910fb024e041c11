import Scaffold.Document.Node
import Scaffold.Script.Basic

/-! # Scripts in documents

  How a document describes a configuration. The entries of an instruction are
  read in two passes: the condition at once, and everything else as values,
  among which the type then chooses the fields. An instruction inside a group is
  a value already, so its condition has to be a text and nothing that only looks
  like one.

  - `Kind`: the types of instructions.
  - `instructionOfNode`, `instructionOfContent`: an instruction of the outermost
    list, and one of a group.
  - `Config.ofDocument`: a whole configuration.
-/

namespace Scaffold

abbrev Reading := Except DocumentFault

/-! ### Types of instructions -/

/-- The types of instructions. -/
inductive Kind where
  /-- Instructions under one condition. -/
  | group
  /-- Shows a message. -/
  | inform
  /-- Asks for the value of a variable. -/
  | query
  /-- Sets a variable. -/
  | define
  /-- Renders templates. -/
  | process
  /-- Moves files. -/
  | move
  /-- Renames a file. -/
  | rename
  /-- Deletes files. -/
  | delete
  deriving DecidableEq, Repr

namespace Kind

/-- All types, in the order of their numbers. -/
def all : List Kind := [group, inform, query, define, process, move, rename, delete]

/-- The name of a type in a document. -/
def name : Kind → String
  | group => "group"
  | inform => "inform"
  | query => "query_var"
  | define => "define_var"
  | process => "process_templates"
  | move => "move"
  | rename => "rename"
  | delete => "delete"

/-- The type that a value names, by its name or by its number. -/
def ofContent (format : Format) (c : Content) : Reading Kind :=
  match c with
  | .scalar (.text s) =>
    match all.find? (·.name == s) with
    | some kind => .ok kind
    | none => .error (.unknownVariant s (all.map name))
  | .scalar (.int i) =>
    if i < 0 then .error (c.mismatch format "variant identifier")
    else match all[i.toNat]? with
      | some kind => .ok kind
      | none => .error (.invalidValue (c.describe format) "variant index 0 <= i < 8")
  | c => .error (c.mismatch format "variant identifier")

end Kind

/-! ### Fields of values -/

/-- The entries of an instruction, apart from its condition. -/
abbrev Entries := List (Content × Content)

/-- The name of the entry that tells the type. -/
def typeField : String := "type"

/-- The name of the entry that holds the condition. -/
def conditionField : String := "condition"

/-- Whether a key is a name. -/
def Content.isName (name : String) : Content → Bool
  | .scalar (.text s) => s == name
  | _ => false

/-- The type of an instruction and the other entries. -/
def takeKind (format : Format) (entries : Entries) : Reading (Kind × Entries) := do
  match entries.filter (·.1.isName typeField) with
  | [] => .error (.missingField typeField)
  | (_, first) :: more =>
    let kind ← Kind.ofContent format first
    if more.isEmpty then return (kind, entries.filter (!·.1.isName typeField))
    else .error (.duplicateField typeField)

/-- The field that a key stands for, by its name or by its number. -/
def fieldOf (names : List String) : Content → Option String
  | .scalar (.text s) => if names.contains s then some s else none
  | .scalar (.int i) => if i < 0 then none else names[i.toNat]?
  | _ => none

/-- The values of the fields, each at most once and in the order of the entries. -/
def collectFields {α : Type} (names : List String) (read : String → Content → Reading α) :
    Entries → List (String × α) → Reading (List (String × α))
  | [], found => .ok found
  | (key, value) :: rest, found =>
    match fieldOf names key with
    | none => collectFields names read rest found
    | some name =>
      if (found.lookup name).isSome then .error (.duplicateField name)
      else do
        let field ← read name value
        collectFields names read rest (found ++ [(name, field)])

/-- A text. -/
def Content.text (format : Format) : Content → Reading String
  | .scalar (.text s) => .ok s
  | c => .error (c.mismatch format "a string")

/-- A text, or null. -/
def Content.optionalText (format : Format) : Content → Reading (Option String)
  | .scalar .null => .ok none
  | c => (c.text format).map some

/-- Fields that hold texts: mandatory names come first, then the others. -/
def textFields (format : Format) (mandatory optional : List String) (entries : Entries) :
    Reading (List (String × Option String)) := do
  let read (name : String) (c : Content) : Reading (Option String) :=
    if mandatory.contains name then (c.text format).map some else c.optionalText format
  let found ← collectFields (mandatory ++ optional) read entries []
  match mandatory.find? fun name => (found.lookup name).isNone with
  | some name => .error (.missingField name)
  | none => return found

/-- The text of a field, which is empty if the field is missing. -/
def textOf (fields : List (String × Option String)) (name : String) : String :=
  ((fields.lookup name).getD none).getD ""

/-- The text of a field that can be missing. -/
def optionOf (fields : List (String × Option String)) (name : String) : Option String :=
  (fields.lookup name).getD none

/-- The step of a type other than a group. -/
def stepOfEntries (format : Format) (kind : Kind) (entries : Entries) : Reading Step := do
  match kind with
  | .inform =>
    let f ← textFields format ["message"] [] entries
    return .inform (textOf f "message")
  | .query =>
    let f ← textFields format ["name", "prompt"] ["default", "validation", "transform"] entries
    return .query ⟨textOf f "name", textOf f "prompt", optionOf f "default",
      optionOf f "validation", optionOf f "transform"⟩
  | .define =>
    let f ← textFields format ["name", "value"] [] entries
    return .define (textOf f "name") (textOf f "value")
  | .process | .group => return .process
  | .move =>
    let f ← textFields format ["from", "to"] ["description"] entries
    return .move (textOf f "from") (textOf f "to") (optionOf f "description")
  | .rename =>
    let f ← textFields format ["file", "name"] ["description"] entries
    return .rename (textOf f "file") (textOf f "name") (optionOf f "description")
  | .delete =>
    let f ← textFields format ["files"] ["description"] entries
    return .delete (textOf f "files") (optionOf f "description")

/-! ### Instructions of a group -/

/-- The condition and the other entries of an instruction that is a value. -/
def splitContent (format : Format) :
    Entries → Option (Option String) → Entries → Reading (Option String × Entries)
  | [], condition, others => .ok (condition.getD none, others)
  | (key, value) :: rest, condition, others =>
    match key with
    | .scalar (.text s) =>
      if s = conditionField then
        if condition.isSome then .error (.duplicateField conditionField)
        else do splitContent format rest (some (← value.optionalText format)) others
      else splitContent format rest condition (others ++ [(key, value)])
    | .scalar (.int i) =>
      if i < 0 then .error (key.mismatch format "field identifier")
      else splitContent format rest condition (others ++ [(key, value)])
    | _ => .error (key.mismatch format "field identifier")

/-- The items of a list. -/
def Content.items (format : Format) : Content → Reading (List Content)
  | .list items => .ok items
  | c => .error (c.mismatch format "a sequence")

/-- The name of the field that holds instructions. -/
def instructionsField : String := "instructions"

mutual

/-- An instruction of the given entries; groups nest at most `levels` deep. -/
def instructionOfEntries (format : Format) (levels : Nat) (condition : Option String)
    (entries : Entries) : Reading Instruction :=
  match levels with
  | 0 => .error .malformed
  | levels + 1 =>
    match takeKind format entries with
    | .error fault => .error fault
    | .ok (.group, others) =>
      match collectFields [instructionsField] (fun _ c => childrenOfContent format levels c)
          others [] with
      | .error fault => .error fault
      | .ok [] => .error (.missingField instructionsField)
      | .ok ((_, children) :: _) => .ok (.group condition children)
    | .ok (kind, others) => (stepOfEntries format kind others).map (.step condition)

/-- The instructions of a group. -/
def childrenOfContent (format : Format) (levels : Nat) (c : Content) :
    Reading (List Instruction) :=
  match levels with
  | 0 => .error .malformed
  | levels + 1 =>
    match c.items format with
    | .error fault => .error fault
    | .ok items => items.mapM fun item => instructionOfContent format levels item

/-- An instruction that is a value. -/
def instructionOfContent (format : Format) (levels : Nat) (c : Content) :
    Reading Instruction :=
  match levels with
  | 0 => .error .malformed
  | levels + 1 =>
    match c with
    | .map entries =>
      match splitContent format entries none [] with
      | .error fault => .error fault
      | .ok (condition, others) => instructionOfEntries format levels condition others
    | c => .error (c.mismatch format "struct Instruction")

end

/-! ### Instructions of the outermost list -/

/-- The depth of the entries of an instruction in a document. -/
def instructionDepth : Nat := 3

/-- The condition and the other entries of an instruction that is a node. -/
def splitNodes (format : Format) :
    List (Node × Node) → Option (Option String) → Entries → Reading (Option String × Entries)
  | [], condition, others => .ok (condition.getD none, others)
  | (key, value) :: rest, condition, others => do
    let name ← key.text format "field identifier"
    if name = conditionField then
      if condition.isSome then .error (.duplicateField conditionField)
      else splitNodes format rest (some (← value.optionalText format)) others
    else
      let c ← value.content format instructionDepth
      splitNodes format rest condition (others ++ [(.scalar (.text name), c)])

/-- An instruction that is a node. -/
def instructionOfNode (format : Format) (node : Node) : Reading Instruction := do
  let entries ← node.entries format "struct Instruction"
  let (condition, others) ← splitNodes format entries none []
  instructionOfEntries format (3 * format.depthLimit) condition others

/-- The instructions of a node. -/
def instructionsOfNode (format : Format) (node : Node) : Reading (List Instruction) := do
  (← node.items format).mapM (instructionOfNode format)

/-! ### Configurations -/

/-- The fields of a configuration that were read so far. -/
structure ConfigDraft where
  /-- The name of the template. -/
  name : Option (Option String) := none
  /-- What the template is for. -/
  description : Option (Option String) := none
  /-- The script. -/
  instructions : Option (List Instruction) := none

/-- The configuration of a draft; missing fields are empty. -/
def ConfigDraft.finish (d : ConfigDraft) : Config :=
  ⟨d.name.getD none, d.description.getD none, d.instructions.getD []⟩

/-- Reads the entries of a configuration. Other entries only have to be sound. -/
def readEntries (format : Format) : List (Node × Node) → ConfigDraft → Reading ConfigDraft
  | [], d => .ok d
  | (key, value) :: rest, d => do
    let name ← key.text format "field identifier"
    match name with
    | "name" =>
      if d.name.isSome then .error (.duplicateField name)
      else readEntries format rest { d with name := some (← value.optionalText format) }
    | "description" =>
      if d.description.isSome then .error (.duplicateField name)
      else readEntries format rest { d with description := some (← value.optionalText format) }
    | "instructions" =>
      if d.instructions.isSome then .error (.duplicateField name)
      else
        let script ← instructionsOfNode format value
        readEntries format rest { d with instructions := some script }
    | _ => if value.isSound then readEntries format rest d else .error .malformed

/-- Reads a configuration that is a list of its fields in order. -/
def readPositions (format : Format) (nodes : List Node) : Reading ConfigDraft := do
  match nodes with
  | [] => return {}
  | [name] => return { name := some (← name.optionalText format) }
  | [name, description] =>
    return { name := some (← name.optionalText format),
             description := some (← description.optionalText format) }
  | name :: description :: instructions :: more =>
    let first ← name.optionalText format
    let second ← description.optionalText format
    let script ← instructionsOfNode format instructions
    if more.isEmpty then return ⟨some first, some second, some script⟩
    else .error .malformed

/-- What reports call a configuration. -/
def configName : String := "struct Config"

/-- The configuration that a node describes. Only JSON knows the list of fields. -/
def Config.ofNode (format : Format) (node : Node) : Reading Config := do
  match format, node with
  | .json, .list _ nodes => return (← readPositions format nodes).finish
  | _, _ => return (← readEntries format (← node.entries format configName) {}).finish

/-- The configuration that a document describes. -/
def Config.ofDocument (format : Format) (document : Document) : Reading Config := do
  let config ← Config.ofNode format document.root
  if document.complete then return config else .error .malformed

end Scaffold
