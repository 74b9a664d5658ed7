/-!
# Why a command line is not carried out

Either it asks for help or the version, or it is wrong.  What is wrong is told in one line.
-/

namespace Watchdog.CommandLine

/-- What help can be asked for. -/
inductive Topic where
  | program
  | run
  | cleanLogs
  | help
deriving Repr, DecidableEq

/-- Why a command line is not carried out. -/
inductive Stop where
  | displayHelp (topic : Topic)
  | displayVersion
  | missingRequired
  /-- A word that is no option and cannot be anything else. -/
  | unknownArgument (word : String)
  | unknownSubcommand (word : String)
  | missingValue (option : String)
  /-- The value is none of the possible ones. -/
  | invalidChoice (value option : String)
  /-- The value is not of the right form. -/
  | invalidValue (value option reason : String)
  | repeated (option : String)
  /-- A value for an option that takes none. -/
  | unexpectedValue (value option : String)
deriving Repr, DecidableEq

namespace Stop

/-- What is wrong, on one line; empty if nothing is. -/
def text : Stop → String
  | displayHelp _ => ""
  | displayVersion => ""
  | missingRequired => "error: the following required arguments were not provided:"
  | unknownArgument word => "error: unexpected argument '" ++ word ++ "' found"
  | unknownSubcommand word => "error: unrecognized subcommand '" ++ word ++ "'"
  | missingValue option =>
    "error: a value is required for '" ++ option ++ "' but none was supplied"
  | invalidChoice value option =>
    "error: invalid value '" ++ value ++ "' for '" ++ option ++ "'"
  | invalidValue value option reason =>
    "error: invalid value '" ++ value ++ "' for '" ++ option ++ "': " ++ reason
  | repeated option => "error: the argument '" ++ option ++ "' cannot be used multiple times"
  | unexpectedValue value option =>
    "error: unexpected value '" ++ value ++ "' for '" ++ option ++
      "' found; no more were expected"

end Stop

end Watchdog.CommandLine
