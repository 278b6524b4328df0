/-
  Shakedown.Program.Usage

  What is printed about a command line that is no command.
-/
import Shakedown.CommandLine.Invocation
import Shakedown.Program.Text

namespace Shakedown.Program

/-- How the program is called. -/
def usage : List String :=
  ["Smoke-test harness for the Orbit agent", "", "Usage: orbit-smoke <COMMAND>", "", "Commands:",
    "  run    Launch the agent, exercise it with a scoped token, and tear it down",
    "  flow   Walk the admin panel flow against an agent that is already running",
    "  probe  Check that a running agent answers its health endpoint",
    "  help   Print this message or the help of the given subcommand(s)", "", "Options:",
    "  -h, --help  Print help"]

/-- What is wrong with a command line. -/
def complaint : CommandLine.UsageError → String
  | .displayHelp => ""
  | .missingSubcommand => "a command is required"
  | .invalidSubcommand => "there is no such command"
  | .unknownArgument => "unexpected argument"
  | .invalidValue => "an option lacks its value"
  | .valueValidation => "an option's value is not a number it can have"
  | .argumentConflict => "an option is given more than once"
  | .tooManyValues => "an option that takes no value is given one"

/-- What is printed instead of carrying out a command. -/
def ofUsageError (e : CommandLine.UsageError) : Printed :=
  match e with
  | .displayHelp => { code := e.exitCode, stdout := lines usage }
  | _ => { code := e.exitCode, stderr := lines (["error: " ++ complaint e, ""] ++ usage) }

end Shakedown.Program
