import Scaffold.CommandLine.Usage
import Scaffold.Generation.Generate
import Scaffold.Source.TemplateSource

/-! # A run of the program

  From the arguments and standard input to the two output streams, the exit code
  and the files that remain.

  - `runSession`: a whole run.
-/

namespace Scaffold

/-! ### Input and output -/

/-- What stands on standard input. It need not be a text. -/
structure StandardInput where
  /-- The bytes. -/
  bytes : ByteArray

instance : Coe String StandardInput := ⟨fun text => ⟨text.toUTF8⟩⟩

/-- What a run of the program starts from. -/
structure SessionInput where
  /-- The arguments. -/
  arguments : List String
  /-- Standard input, if it is no terminal. -/
  stdin : StandardInput := ""
  /-- What the user replies at a terminal, question by question: the line that was typed, or the
  default of the question for an empty line. -/
  replies : List String := []
  /-- Why a question has no answer when there are no more replies. -/
  silence : PromptFault := .terminal "not a terminal"
  /-- All files. -/
  fs : FileSystem
  /-- A free place for the staging tree. -/
  stage : Path
  /-- A free place for a repository that is fetched. -/
  checkout : Path := ⟨"/repository"⟩
  /-- The files of each repository, or why it cannot be fetched. -/
  clone : String → Except String FileSystem := fun address => .error address
  /-- Which hosts the address of a repository may have. -/
  hosts : Source.HostRules := Source.knownHosts

/-- What a run of the program comes to. -/
structure Session where
  /-- The exit code. -/
  code : Nat
  /-- The lines on standard output. -/
  stdout : String
  /-- The lines on standard error. -/
  stderr : String
  /-- All files afterwards. -/
  fs : FileSystem

/-- The line of an event on standard output. A question is shown at the terminal only. -/
def Event.outputLine : Event → String
  | .inform message | .status message => message ++ "\n"
  | .ask .. | .reject _ => ""

/-- The line of an event on standard error. -/
def Event.errorLine : Event → String
  | .reject reason => reason ++ "\n"
  | _ => ""

/-- What is said about an error that ended a run. -/
def failureText (e : Error) : String :=
  "Generation failed: " ++ e.message ++ "\nPartial files may remain from the failed run.\n"

/-- The line before the template is loaded. -/
def sourceLine (source : TemplateSource) : String :=
  "Using template from the " ++ source.display ++ "\n"

/-- The line after the project has been written. -/
def successLine (output : Path) (written : List Path) : String :=
  "Project generation completed successfully in " ++ output.text ++ " (" ++
    toString written.length ++ " files).\n"

/-! ### Runs -/

/-- A run that ended in an error. -/
def failedSession (fs : FileSystem) (stdout stderr : String) (e : Error) : Session :=
  ⟨1, stdout, stderr ++ failureText e, fs⟩

/-- Something may be at the output path only if the run is forced. -/
def checkOutput (fs : FileSystem) (a : Arguments) : Except Error Unit :=
  if fs.isPresent ⟨a.output⟩ && !a.force then .error (.outputExists ⟨a.output⟩) else .ok ()

/-- The answers on standard input, if they are asked for. -/
def readAnswers (a : Arguments) (stdin : StandardInput) : Except Error Answers :=
  if !a.stdin then .ok {}
  else match String.fromUTF8? stdin.bytes with
    | none => .error (.io .notText)
    | some text => match Answers.parse text with
      | .ok answers => .ok answers
      | .error _ => .error (.config .answers)

/-- The end of a run after its generation. -/
def finishSession (stdout : String) (output : Path) (g : Generation) : Session :=
  let out := stdout ++ String.join (g.events.map Event.outputLine)
  let err := String.join (g.events.map Event.errorLine)
  match g.result with
  | .error e => failedSession g.fs out err e
  | .ok written => ⟨0, out ++ successLine output written, err, g.fs⟩

/-- The source of the template. -/
def SessionInput.source (input : SessionInput) (a : Arguments) : TemplateSource :=
  .classify input.hosts a.template

/-- The template, with all files once it is there. -/
def SessionInput.load (input : SessionInput) (a : Arguments) : Except Error LoadedTemplate :=
  (input.source a).load input.fs input.checkout input.clone

/-- What a run asks to be generated. -/
def SessionInput.order (input : SessionInput) (a : Arguments) (template : LoadedTemplate)
    (answers : Answers) : Order :=
  ⟨template.root, ⟨a.output⟩, input.stage, answers, input.replies, input.silence⟩

/-- The rest of a run when its template is there. -/
def runTemplate (input : SessionInput) (a : Arguments) (template : LoadedTemplate) : Session :=
  match readAnswers a input.stdin with
  | .error e => failedSession template.fs (sourceLine (input.source a)) "" e
  | .ok answers =>
    finishSession (sourceLine (input.source a)) ⟨a.output⟩
      (generate (input.order a template answers) template.fs)

/-- The end of a run, at which a fetched repository goes away. -/
def Session.released (s : Session) (template : LoadedTemplate) : Session :=
  match template.checkout with
  | none => s
  | some checkout => { s with fs := Staging.discard s.fs checkout }

/-- A run with proper arguments. -/
def runArguments (input : SessionInput) (a : Arguments) : Session :=
  match checkOutput input.fs a with
  | .error e => failedSession input.fs "" "" e
  | .ok () =>
    match input.load a with
    | .error e => failedSession input.fs (sourceLine (input.source a)) "" e
    | .ok template => (runTemplate input a template).released template

/-- A run of the program. -/
def runSession (input : SessionInput) : Session :=
  match Arguments.parse input.arguments with
  | .ok a => runArguments input a
  | .error fault =>
    if fault.isAnswer then ⟨0, fault.message, "", input.fs⟩
    else ⟨2, "", fault.message, input.fs⟩

end Scaffold
