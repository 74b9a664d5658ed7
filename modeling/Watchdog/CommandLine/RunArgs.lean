import Watchdog.CommandLine.Scan
import Watchdog.Launch.Options
import Watchdog.Text.Blank
import Watchdog.Text.Numeral

/-!
# The words after `run`

Flags for the run, then the command and its own words.  Flags are read before the command and up to
the first word after it that is not one of them; everything from there on belongs to the command.
-/

namespace Watchdog.CommandLine

/-- How results are printed. -/
inductive OutputFormat where
  | text
  | json
deriving Repr, DecidableEq

namespace OutputFormat

def shown : String := "--output <OUTPUT>"

/-- The format of that name. -/
def read (value : String) : Except Stop OutputFormat :=
  if value = "text" then .ok .text
  else if value = "json" then .ok .json
  else if value.isEmpty then .error (.missingValue shown)
  else .error (.invalidChoice value shown)

end OutputFormat

/-- The flags of `run`. -/
inductive RunFlag where
  | timeout
  | maxRetries
  | cwd
  | env
  | unset
  | stream
  | output
  | help
deriving Repr, DecidableEq

namespace RunFlag

/-- The flag as messages show it. -/
def shown : RunFlag → String
  | timeout => "--timeout-ms <MS>"
  | maxRetries => "--max-retries <N>"
  | cwd => "--cwd <DIR>"
  | env => "--env <KEY=VALUE>"
  | unset => "--unset <KEY>"
  | stream => "--stream"
  | output => OutputFormat.shown
  | help => "--help"

def takesValue : RunFlag → Bool
  | stream => false
  | help => false
  | _ => true

end RunFlag

/-- Why a word sets no environment variable. -/
inductive EnvPairError where
  | missingEquals (word : String)
  | emptyKey (word : String)
deriving Repr, DecidableEq

def EnvPairError.message : EnvPairError → String
  | missingEquals word => "invalid KEY=VALUE: no `=` found in `" ++ word ++ "`"
  | emptyKey word => "invalid KEY=VALUE: empty key in `" ++ word ++ "`"

/-- Splits a word at its first equals sign. -/
def readEnvPair (word : String) : Except EnvPairError (String × String) :=
  let key := word.toList.takeWhile (· != '=')
  match word.toList.dropWhile (· != '=') with
  | [] => .error (.missingEquals word)
  | _ :: value =>
    if key.isEmpty then .error (.emptyKey word)
    else .ok (String.ofList key, String.ofList value)

/-- A count of retries: a number of 64 bits that is then held against the range of 32 bits. -/
def readRetries (value : String) : Except String UInt32 :=
  match Numeral.readInt64 value.toList with
  | .error e => .error e.message
  | .ok n =>
    if 0 ≤ n ∧ n ≤ 4294967295 then .ok n.toNat.toUInt32
    else .error (toString n ++ " is not in 0..=4294967295")

/-- What the words after `run` have said so far. -/
structure RunWords where
  timeoutMs : Option UInt64
  maxRetries : Option UInt32
  cwd : Option String
  env : List (String × String)
  unset : List String
  stream : Bool
  output : Option OutputFormat
  command : Option String
  args : List String
deriving Repr, DecidableEq

namespace RunWords

def none : RunWords := ⟨.none, .none, .none, [], [], false, .none, .none, []⟩

/-- The value of an option as a value of another type, or why it is none. -/
def readAs {α : Type} (flag : RunFlag) (value : String) : Except String α → Except Stop α
  | .ok a => .ok a
  | .error reason => .error (.invalidValue value flag.shown reason)

/-- Takes in a flag. -/
def accept (w : RunWords) (flag : RunFlag) (value : Option String) : Except Stop RunWords :=
  let v := value.getD ""
  match flag with
  | .timeout =>
    if w.timeoutMs.isSome then .error (.repeated flag.shown)
    else (readAs flag v ((Numeral.readUInt64 v.toList).mapError NumeralError.message)).map
      fun n => { w with timeoutMs := some n }
  | .maxRetries =>
    if w.maxRetries.isSome then .error (.repeated flag.shown)
    else (readAs flag v (readRetries v)).map fun n => { w with maxRetries := some n }
  | .cwd =>
    if w.cwd.isSome then .error (.repeated flag.shown)
    else if v.isEmpty then .error (.missingValue flag.shown)
    else .ok { w with cwd := some v }
  | .env =>
    (readAs flag v ((readEnvPair v).mapError EnvPairError.message)).map
      fun pair => { w with env := w.env ++ [pair] }
  | .unset => .ok { w with unset := w.unset ++ [v] }
  | .stream =>
    if w.stream then .error (.repeated flag.shown) else .ok { w with stream := true }
  | .output =>
    if w.output.isSome then .error (.repeated flag.shown)
    else (OutputFormat.read v).map fun format => { w with output := some format }
  | .help => .error (.displayHelp .run)

/-- Takes in an operand: first the command, then its words, from the first of which on every word
is one of them. -/
def operand (w : RunWords) (trailing : Bool) (word : String) : RunWords × Bool :=
  match w.command with
  | .none => ({ w with command := some word }, trailing)
  | some _ => ({ w with args := w.args ++ [word] }, true)

/-- The flag of that name. -/
def long? (name : String) : Option RunFlag :=
  match name with
  | "timeout-ms" => some .timeout
  | "max-retries" => some .maxRetries
  | "cwd" => some .cwd
  | "env" => some .env
  | "unset" => some .unset
  | "stream" => some .stream
  | "output" => some .output
  | "help" => some .help
  | _ => .none

/-- The flag of that letter. -/
def short? (letter : Char) : Option RunFlag :=
  match letter with
  | 'e' => some .env
  | 'o' => some .output
  | 'h' => some .help
  | _ => .none

/-- The flags of `run`; the output format is not among them where `run` stands alone. -/
def grammar (withOutput : Bool) : Grammar RunFlag RunWords where
  long? := fun name => (long? name).filter fun f => withOutput || f != .output
  short? := fun letter => (short? letter).filter fun f => withOutput || f != .output
  takesValue := RunFlag.takesValue
  shown := RunFlag.shown
  accept := accept
  hyphenOperand := fun w => w.command.isSome
  operand := fun w trailing word => .ok (w.operand trailing word)

end RunWords

/-- A complete request to run a command. -/
structure RunArgs where
  timeoutMs : Option UInt64
  maxRetries : UInt32
  cwd : Option String
  env : List (String × String)
  unset : List String
  stream : Bool
  command : String
  args : List String
deriving Repr, DecidableEq

namespace RunArgs

/-- The request, if a command was given. -/
def ofWords (w : RunWords) : Except Stop RunArgs :=
  match w.command with
  | none => .error .missingRequired
  | some command =>
    .ok
      { timeoutMs := w.timeoutMs
        maxRetries := w.maxRetries.getD RunOptions.defaultMaxRetries
        cwd := w.cwd
        env := w.env
        unset := w.unset
        stream := w.stream
        command := command
        args := w.args }

/-- The words after `run`, read as a request and the output format. -/
def parseWith (withOutput : Bool) (argv : List String) :
    Except Stop (RunArgs × Option OutputFormat) := do
  let s ← (Scan.start RunWords.none).words (RunWords.grammar withOutput) argv
  let args ← ofWords s.state
  return (args, s.state.output)

/-- The words after `run` where it stands alone. -/
def parse (argv : List String) : Except Stop RunArgs :=
  (parseWith false argv).map (·.1)

/-- A timeout that the environment gives, in milliseconds; one that is no number is ignored. -/
def timeoutFromEnv (value : Option String) : Option Duration :=
  value.bind fun v =>
    match Numeral.readUInt64 (Text.trimBlank v.toList) with
    | .ok n => some (.ofMillis n.toNat)
    | .error _ => none

/-- The timeout: from the flag, else from the environment, else the usual one. -/
def timeout (a : RunArgs) (timeoutEnv : Option String) : Duration :=
  match a.timeoutMs with
  | some n => .ofMillis n.toNat
  | none => (timeoutFromEnv timeoutEnv).getD RunOptions.defaultTimeout

/-- The options for the run.  Variables are set in the order of their flags and removed after
that, so removing wins wherever its flag stood. -/
def toOptions (a : RunArgs) (timeoutEnv : Option String) : RunOptions :=
  let o := ((RunOptions.new a.command).addArgs a.args).withTimeout (a.timeout timeoutEnv)
  let o := o.withMaxRetries a.maxRetries
  let o := match a.cwd with
    | some dir => o.withCwd dir
    | none => o
  let o := a.env.foldl (fun o pair => o.setEnv pair.1 pair.2) o
  a.unset.foldl RunOptions.removeEnv o

end RunArgs

end Watchdog.CommandLine
