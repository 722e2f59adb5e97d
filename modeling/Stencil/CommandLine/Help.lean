import Stencil.CommandLine.Argument
import Stencil.Text.Lines

/-! What the program tells about itself. -/

namespace Stencil.CommandLine

def version : String :=
  Text.ofLines ["mutation-scaffold 0.1.0"]

def help : Topic → String
  | .program => Text.ofLines
    ["Generate command-object mutations and their test stubs",
     "",
     "Usage: mutation-scaffold [OPTIONS] <COMMAND>",
     "",
     "Commands:",
     "  generate  Generate a mutation and, if the project has a spec directory, its test stub",
     "  help      Print this message or the help of the given subcommand(s)",
     "",
     "Options:",
     "  -v, --verbose...  Increase log verbosity (-v info, -vv debug)",
     "  -q, --quiet       Do not print per-file status lines",
     "  -h, --help        Print help",
     "  -V, --version     Print version"]
  | .generate => Text.ofLines
    ["Generate a mutation and, if the project has a spec directory, its test stub",
     "",
     "Usage: mutation-scaffold generate [OPTIONS] <NAME> [ATTRIBUTE]...",
     "",
     "Arguments:",
     "  <NAME>          Snake-case mutation name (e.g. create_user)",
     "  [ATTRIBUTE]...  Attribute definitions: name:filter[:required|optional]",
     "",
     "Options:",
     "      --root <ROOT>  Project root the conventional directories live under [default: .]",
     "  -v, --verbose...   Increase log verbosity (-v info, -vv debug)",
     "      --pretend      Show what would be written without writing anything",
     "  -q, --quiet        Do not print per-file status lines",
     "      --skip-spec    Never generate the test stub",
     "  -h, --help         Print help"]
  | .help => Text.ofLines
    ["Print this message or the help of the given subcommand(s)",
     "",
     "Usage: mutation-scaffold help [COMMAND]...",
     "",
     "Arguments:",
     "  [COMMAND]...  Print help for the subcommand(s)"]

namespace Halt

def reason : Halt → String
  | help _ => "help was asked for"
  | version => "the version was asked for"
  | nothingAsked => "nothing was asked for"
  | missingCommand => "a command is required"
  | unknownCommand => "there is no such command"
  | unknownArgument => "there is no such argument here"
  | missingArgument => "the name of the mutation is required"
  | invalidValue => "--root needs a value that is not empty"
  | conflict => "an argument is given twice"
  | tooManyValues => "a flag takes no value"

def output : Halt → String
  | help topic => CommandLine.help topic
  | version => CommandLine.version
  | _ => ""

def complaint : Halt → String
  | help _ | version => ""
  | nothingAsked => CommandLine.help .program
  | halt => Text.ofLines ["error: " ++ halt.reason, "", "For more information, try '--help'."]

end Halt

end Stencil.CommandLine
