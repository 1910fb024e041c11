/-! # Scripts

  A script is a list of instructions. An instruction is a single step or a group
  of instructions; either can carry a condition.
-/

namespace Scaffold

/-! ### Steps -/

/-- A question about the value of a variable. -/
structure Question where
  /-- The variable. -/
  name : String
  /-- What the user reads. -/
  prompt : String
  /-- The suggested answer, to be expanded. -/
  default : Option String := none
  /-- The name of the validator. -/
  validation : Option String := none
  /-- What is stored in place of the answer, to be expanded. -/
  transform : Option String := none
  deriving DecidableEq, Repr

/-- What a single instruction does. -/
inductive Step where
  /-- Shows a message. -/
  | inform (message : String)
  /-- Asks for the value of a variable. -/
  | query (question : Question)
  /-- Sets a variable. -/
  | define (name value : String)
  /-- Renders every template of the staging tree. -/
  | process
  /-- Moves files into a directory. -/
  | move (source target : String) (description : Option String)
  /-- Renames a file or directory. -/
  | rename (file name : String) (description : Option String)
  /-- Deletes files and directories. -/
  | delete (files : String) (description : Option String)
  deriving DecidableEq, Repr

/-! ### Instructions -/

/-- A part of a script. -/
inductive Instruction where
  /-- A single step. -/
  | step (condition : Option String) (step : Step)
  /-- Instructions under one condition. -/
  | group (condition : Option String) (children : List Instruction)
  deriving Repr

/-- The condition of an instruction. -/
def Instruction.condition : Instruction → Option String
  | .step condition _ => condition
  | .group condition _ => condition

/-- What the configuration of a template says. -/
structure Config where
  /-- The name of the template. -/
  name : Option String := none
  /-- What the template is for. -/
  description : Option String := none
  /-- The script. -/
  instructions : List Instruction := []
  deriving Repr

end Scaffold
