import Scaffold.Generation.ProjectName
import Scaffold.Script.Load
import Scaffold.Script.Run
import Scaffold.Staging.Publication

/-! # Generating a project

  A template is staged, its script runs on the staging tree, and what remains
  there is published. The staging tree goes away in any case.

  - `generate`: from the template to the written files.
-/

namespace Scaffold

/-- What came of a generation. -/
structure Generation where
  /-- The written files, or why the generation stopped. -/
  result : Except Error (List Path)
  /-- What the user was told and asked. -/
  events : List Event
  /-- All files afterwards. -/
  fs : FileSystem

/-- What a generation starts from. -/
structure Order where
  /-- The directory of the template. -/
  template : Path
  /-- The directory of the project. -/
  output : Path
  /-- A free place for the staging tree. -/
  stage : Path
  /-- The answers that were supplied beforehand. -/
  answers : Answers := {}
  /-- What the user will reply. -/
  replies : List String := []
  /-- Why a question fails when there are no more replies. -/
  silence : PromptFault := .exhausted

/-- What is reported before the files are published. -/
def publicationStatus : String := "Nearly finished. Populating final project"

/-- Runs a script on a staging tree and publishes what remains of it. -/
def execute (o : Order) (script : List Instruction) (env : Environment) (fs : FileSystem) :
    Generation :=
  match runAll ⟨o.stage, o.answers, o.silence⟩ script { fs, env, replies := o.replies } with
  | (.error e, p) => ⟨.error e, p.events, p.fs⟩
  | (.ok (), p) =>
    let published := Staging.publish p.fs o.stage o.output
    ⟨published.1, (p.emit (.status publicationStatus)).events, published.2⟩

/-- Removes the staging tree after a generation. -/
def Generation.cleaned (g : Generation) (stage : Path) : Generation :=
  { g with fs := Staging.discard g.fs stage }

/-- Stages a template, runs a script on it, and publishes the outcome. -/
def stageAndExecute (o : Order) (config : Config) (rules : IgnoreRules) (fs : FileSystem) :
    Generation :=
  match Staging.create fs o.template o.stage rules with
  | (.error e, fs') => ⟨.error e, [], fs'⟩
  | (.ok (), fs') =>
    match projectFolderName fs o.output with
    | .error fault => ⟨.error (.io fault), [], fs'⟩
    | .ok name => execute o config.instructions (Environment.initial name) fs'

/-- Generates a project. -/
def generate (o : Order) (fs : FileSystem) : Generation :=
  match Config.load fs o.template with
  | .error e => ⟨.error e, [], fs⟩
  | .ok config =>
    match Staging.ignoreRules fs o.template with
    | .error e => ⟨.error e, [], fs⟩
    | .ok rules => (stageAndExecute o config rules fs).cleaned o.stage

end Scaffold
