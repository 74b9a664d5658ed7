import Watchdog.CommandLine.Stop

/-!
# Help texts
-/

namespace Watchdog.CommandLine

def version : String := "spawnkit 0.1.0\n"

def programHelp : String :=
"Run a command with a deadline and report how it ended

Usage: spawnkit [OPTIONS] [COMMAND]

Commands:
  run         Run a command and report the classified result
  clean-logs  Delete the default stdout/stderr log files
  help        Print this message or the help of the given subcommand(s)

Options:
  -o, --output <OUTPUT>  Output format [default: text] [possible values: text, json]
  -h, --help             Print help
  -V, --version          Print version
"

def runHelp : String :=
"Run a command and report the classified result

Usage: spawnkit run [OPTIONS] <COMMAND> [ARGS]...

Arguments:
  <COMMAND>  Command to run
  [ARGS]...  Arguments for the command

Options:
  -o, --output <OUTPUT>  Output format [default: text] [possible values: text, json]
      --timeout-ms <MS>  Kill the command after this many milliseconds (default: $SPAWNKIT_TIMEOUT_MS or 12000)
      --max-retries <N>  Retries for transient launch failures (EBUSY, UNKNOWN) [default: 1]
      --cwd <DIR>        Working directory for the command
  -e, --env <KEY=VALUE>  Set an environment variable (repeatable)
      --unset <KEY>      Remove an inherited environment variable (repeatable)
      --stream           Echo output live instead of appending it to the log files
  -h, --help             Print help
"

def cleanLogsHelp : String :=
"Delete the default stdout/stderr log files

Usage: spawnkit clean-logs [OPTIONS]

Options:
  -o, --output <OUTPUT>  Output format [default: text] [possible values: text, json]
  -h, --help             Print help
"

def helpHelp : String :=
"Print this message or the help of the given subcommand(s)

Usage: spawnkit help [COMMAND]...

Arguments:
  [COMMAND]...  Print help for the subcommand(s)
"

/-- The help on a topic. -/
def Topic.text : Topic → String
  | program => programHelp
  | run => runHelp
  | cleanLogs => cleanLogsHelp
  | help => helpHelp

end Watchdog.CommandLine
