import Watchdog.CommandLine.RunArgs

/-!
# Whole command lines

A command line names a subcommand, with options before and after it; the output format may be given
in either place, and the place after the subcommand wins.
-/

namespace Watchdog.CommandLine

/-- What a command line asks for. -/
inductive Invocation where
  /-- No subcommand. -/
  | bare
  | run (args : RunArgs) (format : OutputFormat)
  | cleanLogs (format : OutputFormat)
deriving Repr, DecidableEq

/-- The options that are not those of `run`. -/
inductive CommonFlag where
  | output
  | help
  | version
deriving Repr, DecidableEq

namespace CommonFlag

def shown : CommonFlag → String
  | output => OutputFormat.shown
  | help => "--help"
  | version => "--version"

/-- The output format given so far. -/
abbrev Given := Option OutputFormat

def accept (topic : Topic) (given : Given) (flag : CommonFlag) (value : Option String) :
    Except Stop Given :=
  match flag with
  | output =>
    if given.isSome then .error (.repeated flag.shown)
    else (OutputFormat.read (value.getD "")).map some
  | help => .error (.displayHelp topic)
  | version => .error .displayVersion

/-- Common options; only the program as a whole has a version. -/
def grammar (topic : Topic) (operand : Bool → String → Stop) : Grammar CommonFlag Given where
  long? := fun name =>
    match name with
    | "output" => some output
    | "help" => some help
    | "version" => if topic = .program then some version else none
    | _ => none
  short? := fun letter =>
    match letter with
    | 'o' => some output
    | 'h' => some help
    | 'V' => if topic = .program then some version else none
    | _ => none
  takesValue := fun flag => flag == output
  shown := shown
  accept := accept topic
  hyphenOperand := fun _ => false
  operand := fun _ trailing word => .error (operand trailing word)

end CommonFlag

namespace Invocation

/-- The subcommands and what their help is. -/
def subcommands : List (String × Topic) :=
  [("run", .run), ("clean-logs", .cleanLogs), ("help", .help)]

def isSubcommand (word : String) : Bool := subcommands.any (·.1 == word)

/-- What the words after `help` name. -/
def helpTopic : List String → Stop
  | [] => .displayHelp .program
  | [word] =>
    match subcommands.find? (·.1 == word) with
    | some (_, topic) => .displayHelp topic
    | none => .unknownSubcommand word
  | word :: next :: _ => if isSubcommand word then .unknownSubcommand next else .unknownSubcommand word

/-- A word where only a subcommand could stand. -/
def misplaced (trailing : Bool) (word : String) : Stop :=
  if trailing && isSubcommand word then .unknownArgument word else .unknownSubcommand word

def programGrammar : Grammar CommonFlag CommonFlag.Given :=
  CommonFlag.grammar .program misplaced

def cleanLogsGrammar : Grammar CommonFlag CommonFlag.Given :=
  CommonFlag.grammar .cleanLogs fun _ word => .unknownArgument word

/-- The format given after the subcommand, else the one before it, else text. -/
def chooseFormat (outer inner : Option OutputFormat) : OutputFormat :=
  inner.getD (outer.getD .text)

/-- Reads a command line, without the name of the program. -/
def parse (argv : List String) : Except Stop Invocation := do
  let (outer, entered) ← (Scan.start none).wordsUntil programGrammar isSubcommand argv
  match entered with
  | none =>
    let _ ← outer.resolve programGrammar
    return .bare
  | some ("help", rest) => .error (helpTopic rest)
  | some ("clean-logs", rest) =>
    let inner ← (Scan.start none).words cleanLogsGrammar rest
    let outer ← outer.resolve programGrammar
    return .cleanLogs (chooseFormat outer.state inner.state)
  | some (_, rest) =>
    let (args, format) ← RunArgs.parseWith true rest
    let outer ← outer.resolve programGrammar
    return .run args (chooseFormat outer.state format)

end Invocation

end Watchdog.CommandLine
