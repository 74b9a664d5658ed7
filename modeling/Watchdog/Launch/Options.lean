import Watchdog.Duration
import Watchdog.Text.Quoted

/-!
# What to run, and how

The command with its arguments, directory and changes to the environment, and the limits for its
run.  Changes to the environment apply in order, so a later one for the same variable wins.
-/

namespace Watchdog

/-- A change to the environment: a new value, or removal. -/
abbrev EnvChange := String × Option String

/-- The command as the operating system is asked to start it. -/
structure LaunchSpec where
  command : String
  args : List String
  cwd : Option String
  env : List EnvChange
deriving Repr, DecidableEq

/-- The variables of a process. -/
abbrev Environment := List (String × String)

namespace Environment

/-- The value of a variable. -/
def value? (env : Environment) (key : String) : Option String :=
  (env.find? (·.1 == key)).map (·.2)

/-- The environment without a variable. -/
def remove (env : Environment) (key : String) : Environment :=
  env.filter (·.1 != key)

/-- The environment with a variable set. -/
def set (env : Environment) (key value : String) : Environment :=
  env.remove key ++ [(key, value)]

/-- One change. -/
def change (env : Environment) : EnvChange → Environment
  | (key, some value) => env.set key value
  | (key, none) => env.remove key

/-- The environment of the command, from the one it would inherit. -/
def apply (env : Environment) (changes : List EnvChange) : Environment :=
  changes.foldl change env

end Environment

/-- A command and the limits for its run. -/
structure RunOptions where
  command : String
  args : List String
  cwd : Option String
  timeout : Duration
  env : List EnvChange
  maxRetries : UInt32
deriving Repr, DecidableEq

namespace RunOptions

/-- How long a command may run unless told otherwise. -/
def defaultTimeout : Duration := .ofMillis 12000

/-- How often a launch is tried again unless told otherwise. -/
def defaultMaxRetries : UInt32 := 1

/-- A command with the usual limits. -/
def new (command : String) : RunOptions :=
  { command := command
    args := []
    cwd := none
    timeout := defaultTimeout
    env := []
    maxRetries := defaultMaxRetries }

def addArgs (o : RunOptions) (args : List String) : RunOptions := { o with args := o.args ++ args }

def withCwd (o : RunOptions) (dir : String) : RunOptions := { o with cwd := some dir }

def withTimeout (o : RunOptions) (d : Duration) : RunOptions := { o with timeout := d }

def withMaxRetries (o : RunOptions) (n : UInt32) : RunOptions := { o with maxRetries := n }

def setEnv (o : RunOptions) (key value : String) : RunOptions :=
  { o with env := o.env ++ [(key, some value)] }

def removeEnv (o : RunOptions) (key : String) : RunOptions :=
  { o with env := o.env ++ [(key, none)] }

/-- What is needed to start the command. -/
def launchSpec (o : RunOptions) : LaunchSpec := ⟨o.command, o.args, o.cwd, o.env⟩

/-! ## Text for developers -/

/-- Items between brackets. -/
def listText (items : List String) : String := "[" ++ ", ".intercalate items ++ "]"

/-- A value that may be absent. -/
def optionText : Option String → String
  | none => "None"
  | some text => "Some(" ++ text ++ ")"

/-- One change to the environment. -/
def changeText (c : EnvChange) : String :=
  "(" ++ Text.quoteText c.1 ++ ", " ++ optionText (c.2.map Text.quoteText) ++ ")"

/-- All options but the receivers of output, which have no text. -/
def debugText (o : RunOptions) : String :=
  let fields :=
    [ ("command", Text.quoteText o.command),
      ("args", listText (o.args.map Text.quoteText)),
      ("cwd", optionText (o.cwd.map Text.quotePath)),
      ("timeout", o.timeout.text),
      ("env", listText (o.env.map changeText)),
      ("max_retries", toString o.maxRetries.toNat) ]
  "SpawnOptions \x7b " ++ ", ".intercalate (fields.map fun f => f.1 ++ ": " ++ f.2) ++ ", .. \x7d"

end RunOptions

end Watchdog
