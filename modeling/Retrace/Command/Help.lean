import Retrace.Command.Options
import Retrace.Journal.Session

/-!
# What a command says of itself
-/

namespace Retrace.Command

/-- The name of the command. -/
def program : Text := Journal.service

/-- Lines of a text. -/
def lines (ls : List String) : Text := ls.flatMap fun l => l.toList ++ ['\n']

/-- How the command is used. -/
def usage : Text := lines ["usage: crashlyfix <sourcemap.js.map> <stack_trace.txt> [options]"]

/-- The help. -/
def help : Text :=
  usage ++ lines [
    "",
    "Crashlyfix is a simple tool for decrypting stack traces coming from the",
    "minified JS code.",
    "",
    "positional arguments:",
    "  source_map            Source map of the bundle",
    "  stack_trace           Crash report with the trace",
    "",
    "options:",
    "  -h, --help            show this help message and exit",
    "  --version             show program's version number and exit",
    "  -l, --long            Show full source paths instead of shortening the",
    "                        common prefix",
    "  -t TRACE, --trace TRACE",
    "                        Accepted for compatibility; currently unused",
    "  -o OUTPUT, --output OUTPUT",
    "                        Write the result to this file instead of stdout",
    "  -c CONFIG, --config CONFIG",
    "                        Path to an optional YAML configuration file",
    "  -d, --debug           Enable debug logging",
    "  --log-format \x7bjson,console\x7d",
    "                        Log output format (default: console)"]

/-- The name and version. -/
def versionLine : Text := program ++ ' ' :: Journal.version ++ ['\n']

/-- What is said of a command line that is refused. -/
def refusal (message : Text) : Text :=
  usage ++ program ++ ": error: ".toList ++ message ++ ['\n']

/-- The message about a missing stack trace. -/
def missingTrace : Text := "the following arguments are required: stack_trace".toList

end Retrace.Command
