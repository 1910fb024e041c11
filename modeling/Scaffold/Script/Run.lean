import Scaffold.Script.Answers
import Scaffold.Script.Basic
import Scaffold.Staging.Delete
import Scaffold.Staging.Move
import Scaffold.Staging.Process
import Scaffold.Staging.Rename

/-! # Running a script

  Instructions run in order, on one environment and one staging tree. The first
  error ends the run; what was done before it stays.

  - `Progress`: everything that a run changes.
  - `converse`: a question asked until an answer is accepted.
  - `runStep`, `runInstruction`, `runAll`: the three levels of a run.
-/

namespace Scaffold

/-! ### State -/

/-- What a run tells or asks the user. -/
inductive Event where
  /-- A question with its expanded suggestion. -/
  | ask (name prompt : String) (default : Option String)
  /-- A message. -/
  | inform (message : String)
  /-- Why the last answer was rejected. -/
  | reject (reason : String)
  /-- What is done next. -/
  | status (message : String)
  deriving DecidableEq, Repr

/-- What stays the same during a run. -/
structure Setting where
  /-- The staging root. -/
  root : Path
  /-- The answers that were supplied before the run. -/
  answers : Answers := {}
  /-- Why a question fails when there are no more replies. -/
  silence : PromptFault := .exhausted

/-- What a run changes. -/
structure Progress where
  /-- All files. -/
  fs : FileSystem
  /-- The variables. -/
  env : Environment
  /-- What the user will reply. -/
  replies : List String := []
  /-- What happened so far. -/
  events : List Event := []

/-- Adds an event. -/
def Progress.emit (p : Progress) (event : Event) : Progress :=
  { p with events := p.events ++ [event] }

/-- What a part of a run comes to. -/
abbrev Outcome := Except Error Unit × Progress

/-! ### Questions -/

/-- Why a validator rejects an answer. -/
def rejection (validator : Option Builtin) (answer : String) : Option String :=
  match validator with
  | none => none
  | some builtin => if builtin.call answer = "" then none else some (builtin.call answer)

/-- A question and what came of it. -/
structure Conversation where
  /-- Questions and rejections in order. -/
  events : List Event
  /-- The accepted reply. -/
  answer? : Option String
  /-- The replies that are left. -/
  replies : List String

/-- Asks until a reply is accepted or none is left. -/
def converse (question : Event) (validator : Option Builtin) : List String → Conversation
  | [] => ⟨[question], none, []⟩
  | reply :: rest =>
    match rejection validator reply with
    | none => ⟨[question], some reply, rest⟩
    | some reason =>
      let later := converse question validator rest
      ⟨question :: .reject reason :: later.events, later.answer?, later.replies⟩

/-- The answer to a question: the supplied one, or the first accepted reply. -/
def obtain (s : Setting) (p : Progress) (q : Question) (default : Option String)
    (validator : Option Builtin) : Except Error String × Progress :=
  match s.answers.get? q.name with
  | some answer =>
    match rejection validator answer with
    | some reason => (.error (.rejectedAnswer q.name answer reason), p)
    | none => (.ok answer, p)
  | none =>
    let c := converse (.ask q.name q.prompt default) validator p.replies
    let p' := { p with replies := c.replies, events := p.events ++ c.events }
    match c.answer? with
    | some answer => (.ok answer, p')
    | none => (.error (.prompt s.silence), p')

/-- What is stored for an accepted answer. -/
def transformed (env : Environment) (transform : Option String) (answer : String) :
    Except Error String :=
  match transform with
  | none => .ok answer
  | some template => expandText (env.setText Environment.transformValue answer) template

/-- The expanded suggestion of a question. -/
def suggestion (env : Environment) : Option String → Except Error (Option String)
  | none => .ok none
  | some template => (expandText env template).map some

/-- The validator of a question. -/
def namedValidator (env : Environment) : Option String → Except Error (Option Builtin)
  | none => .ok none
  | some name =>
    match env.validator? name with
    | some builtin => .ok (some builtin)
    | none => .error (.unknownValidator name)

/-- Asks a question and stores the answer. -/
def runQuery (s : Setting) (q : Question) (p : Progress) : Outcome :=
  match suggestion p.env q.default with
  | .error e => (.error e, p)
  | .ok default =>
    match namedValidator p.env q.validation with
    | .error e => (.error e, p)
    | .ok validator =>
      match obtain s p q default validator with
      | (.error e, p') => (.error e, p')
      | (.ok answer, p') =>
        match transformed p'.env q.transform answer with
        | .error e => (.error e, p')
        | .ok value => (.ok (), { p' with env := p'.env.setText q.name value })

/-! ### Steps -/

/-- Takes over the outcome of an operation on the staging tree. -/
def Progress.settle {α : Type} (p : Progress) (r : Except Error α × FileSystem) : Outcome :=
  (r.1.map fun _ => (), { p with fs := r.2 })

/-- What is reported before an operation. -/
def announcement (description : Option String) (plain : String) : Event :=
  .status (description.getD plain)

/-- Runs a single step. -/
def runStep (s : Setting) (step : Step) (p : Progress) : Outcome :=
  match step with
  | .inform message =>
    match expandText p.env message with
    | .error e => (.error e, p)
    | .ok text => (.ok (), p.emit (.inform text))
  | .query question => runQuery s question p
  | .define name value =>
    match expandText p.env value with
    | .error e => (.error e, p)
    | .ok text => (.ok (), { p with env := p.env.setText name text })
  | .process =>
    (p.emit (.status "Processing templates")).settle
      (Staging.processTemplates p.fs s.root p.env)
  | .move source target description =>
    match expandText p.env target with
    | .error e => (.error e, p)
    | .ok directory =>
      (p.emit (announcement description
        ("Moving \"" ++ source ++ "\" to \"" ++ directory ++ "\""))).settle
          (Staging.moveFiles p.fs s.root source directory)
  | .rename file name description =>
    match expandText p.env name with
    | .error e => (.error e, p)
    | .ok newName =>
      (p.emit (announcement description
        ("Renaming \"" ++ file ++ "\" to \"" ++ newName ++ "\""))).settle
          (Staging.renameFile p.fs s.root file newName)
  | .delete files description =>
    (p.emit (announcement description ("Deleting \"" ++ files ++ "\""))).settle
      (Staging.deleteFiles p.fs s.root files)

/-! ### Instructions -/

/-- Whether an instruction with this condition is to run. -/
def isOpen (env : Environment) : Option String → Except Error Bool
  | none => .ok true
  | some condition => conditionHolds env condition

mutual

/-- Runs an instruction if its condition holds when it is reached. -/
def runInstruction (s : Setting) : Instruction → Progress → Outcome
  | .step condition step, p =>
    match isOpen p.env condition with
    | .error e => (.error e, p)
    | .ok false => (.ok (), p)
    | .ok true => runStep s step p
  | .group condition children, p =>
    match isOpen p.env condition with
    | .error e => (.error e, p)
    | .ok false => (.ok (), p)
    | .ok true => runAll s children p

/-- Runs instructions in order up to the first error. -/
def runAll (s : Setting) : List Instruction → Progress → Outcome
  | [], p => (.ok (), p)
  | instruction :: rest, p =>
    match runInstruction s instruction p with
    | (.error e, p') => (.error e, p')
    | (.ok (), p') => runAll s rest p'

end

end Scaffold
