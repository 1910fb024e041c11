/-! # Command-line arguments

  Two values and three switches, in any order. Switches can be written out or
  bundled as letters; behind `--` everything is a value. The first argument that
  does not fit decides what is reported.

  - `Arguments.parse`: the arguments, or the fault in them.
-/

namespace Scaffold

/-! ### Arguments and faults -/

/-- The arguments of a run. -/
structure Arguments where
  /-- Where the template comes from. -/
  template : String
  /-- The directory of the project. -/
  output : String
  /-- Whether the directory may be there already. -/
  force : Bool := false
  /-- Whether more is logged. -/
  verbose : Bool := false
  /-- Whether answers are read from standard input. -/
  stdin : Bool := false
  deriving DecidableEq, Repr

/-- Why arguments lead to no run. -/
inductive UsageFault where
  /-- There are none. -/
  | nothing
  /-- The help is asked for. -/
  | help
  /-- The version is asked for. -/
  | version
  /-- An argument has no meaning. -/
  | unknown
  /-- A switch has a value. -/
  | surplusValue
  /-- A switch is set twice. -/
  | repeated
  /-- A value is not allowed. -/
  | invalidValue
  /-- A value is missing. -/
  | missing
  deriving DecidableEq, Repr

/-! ### Switches -/

/-- What an option does. -/
inductive Switch where
  /-- The directory may be there already. -/
  | force
  /-- More is logged. -/
  | verbose
  /-- Answers are read from standard input. -/
  | stdin
  /-- The help is shown. -/
  | help
  /-- The version is shown. -/
  | version
  deriving DecidableEq, Repr

namespace Switch

/-- All switches. -/
def all : List Switch := [force, verbose, stdin, help, version]

/-- The letter of a switch. -/
def letter : Switch → Char
  | force => 'f'
  | verbose => 'v'
  | stdin => 's'
  | help => 'h'
  | version => 'V'

/-- The word of a switch. -/
def word : Switch → String
  | force => "force"
  | verbose => "verbose"
  | stdin => "stdin"
  | help => "help"
  | version => "version"

end Switch

/-! ### Reading -/

/-- What has been read of the arguments. -/
structure ArgumentDraft where
  /-- The values in order. -/
  values : List String := []
  /-- The switches in order. -/
  switches : List Switch := []

namespace ArgumentDraft

/-- How many values there are. -/
def valueLimit : Nat := 2

/-- The output directory has to have a name. -/
def isSound (d : ArgumentDraft) : Bool := d.values[1]? != some ""

/-- Sets a switch. What was read before is judged first. -/
def set (d : ArgumentDraft) (s : Switch) : Except UsageFault ArgumentDraft :=
  if !d.isSound then .error .invalidValue
  else match s with
    | .help => .error .help
    | .version => .error .version
    | s =>
      if d.switches.contains s then .error .repeated
      else .ok { d with switches := d.switches ++ [s] }

/-- Sets the switches of bundled letters. -/
def setLetters (d : ArgumentDraft) : List Char → Except UsageFault ArgumentDraft
  | [] => .ok d
  | c :: rest =>
    match Switch.all.find? (·.letter == c) with
    | none => .error .unknown
    | some s =>
      match d.set s with
      | .error fault => .error fault
      | .ok d => d.setLetters rest

/-- Sets the switch of a word, which may have no value. -/
def setWord (d : ArgumentDraft) (cs : List Char) : Except UsageFault ArgumentDraft :=
  match Switch.all.find? (·.word == String.ofList (cs.takeWhile (· != '='))) with
  | none => .error .unknown
  | some s => if cs.contains '=' then .error .surplusValue else d.set s

/-- Adds a value. -/
def addValue (d : ArgumentDraft) (value : String) : Except UsageFault ArgumentDraft :=
  if valueLimit ≤ d.values.length then .error .unknown
  else .ok { d with values := d.values ++ [value] }

/-- Reads arguments in order; the flag tells that no `--` has come yet. -/
def read (d : ArgumentDraft) : Bool → List String → Except UsageFault ArgumentDraft
  | _, [] => .ok d
  | true, argument :: rest =>
    let step : Except UsageFault ArgumentDraft := match argument.toList with
      | ['-', '-'] => .ok d
      | '-' :: '-' :: word => d.setWord word
      | '-' :: c :: letters => d.setLetters (c :: letters)
      | _ => d.addValue argument
    match step with
    | .error fault => .error fault
    | .ok d => d.read (argument != "--") rest
  | false, argument :: rest =>
    match d.addValue argument with
    | .error fault => .error fault
    | .ok d => d.read false rest

end ArgumentDraft

/-- The arguments that a draft makes up. -/
def Arguments.ofDraft (d : ArgumentDraft) : Except UsageFault Arguments :=
  if !d.isSound then .error .invalidValue
  else match d.values with
    | [template, output] =>
      .ok ⟨template, output, d.switches.contains .force, d.switches.contains .verbose,
        d.switches.contains .stdin⟩
    | _ => .error (if d.values.isEmpty && d.switches.isEmpty then .nothing else .missing)

/-- Reads the arguments of a run. -/
def Arguments.parse (arguments : List String) : Except UsageFault Arguments :=
  match ({} : ArgumentDraft).read true arguments with
  | .error fault => .error fault
  | .ok d => Arguments.ofDraft d

end Scaffold
