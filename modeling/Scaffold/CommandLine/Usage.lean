import Scaffold.CommandLine.Arguments

/-! # Help

  What the program says about itself and about arguments that lead to no run.
-/

namespace Scaffold

/-- The name of the program. -/
def programName : String := "kiln"

/-- The version of the program. -/
def programVersion : String := "0.1.0"

/-- What the program does. -/
def programPurpose : String := "kiln: script-driven project scaffolding tool"

/-- How the program is called. -/
def usageLine : String := "Usage: kiln [OPTIONS] <TEMPLATE> <OUTPUT_DIR>"

/-- The help. -/
def helpText : String :=
  "\n".intercalate [
    programPurpose,
    "",
    usageLine,
    "",
    "Arguments:",
    "  <TEMPLATE>    Path to the template directory or git repository URL",
    "  <OUTPUT_DIR>  Directory where the generated project will be created",
    "",
    "Options:",
    "  -f, --force    Generate into an existing output directory, overwriting generated files",
    "  -v, --verbose  Enable verbose logging output",
    "  -s, --stdin    Read answers as a JSON object from stdin instead of prompting",
    "  -h, --help     Print help",
    "  -V, --version  Print version",
    ""]

/-- Whether a fault is an answer and not a mistake. -/
def UsageFault.isAnswer : UsageFault → Bool
  | .help | .version => true
  | _ => false

/-- What a fault of arguments says. -/
def UsageFault.message : UsageFault → String
  | .nothing | .help => helpText
  | .version => programName ++ " " ++ programVersion ++ "\n"
  | .unknown => "error: unexpected argument found\n\n" ++ usageLine ++ "\n"
  | .surplusValue => "error: unexpected value found\n\n" ++ usageLine ++ "\n"
  | .repeated => "error: an argument cannot be used multiple times\n\n" ++ usageLine ++ "\n"
  | .invalidValue => "error: a value is required for '<OUTPUT_DIR>' but none was supplied\n"
  | .missing => "error: required arguments were not provided\n\n" ++ usageLine ++ "\n"

end Scaffold
