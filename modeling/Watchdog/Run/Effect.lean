import Watchdog.Launch.Handle
import Watchdog.Launch.Options
import Watchdog.Session

/-!
# What a run does to the outside

A run launches commands, pauses, asks the handles on its processes to signal, hands text to the
receivers of the two streams, and notes what it does for a log.  All of it is recorded in order as
data.
-/

namespace Watchdog

/-- How much a note matters. -/
inductive Level where
  | trace
  | debug
  | warn
deriving Repr, DecidableEq

def Level.name : Level → String
  | trace => "TRACE"
  | debug => "DEBUG"
  | warn => "WARN"

/-- What is noted for the log. -/
inductive Note where
  | starting (spec : LaunchSpec)
  | started
  | launchFailed (f : LaunchFailure)
  | retrying (command : String) (attempt : UInt32) (code : String) (delay : Duration)
  | waitFailed (command : String) (error : IoError)
  | groupSignalled
  | groupSignalFailed (error : HandleError)
  | deadlineReached (command : String) (timeout : Duration)
  | killFailed (command : String) (error : HandleError)
  | appendFailed (path : String) (error : IoError)
  | settled (command : String) (exitCode : Option Int32) (signal : Option String)
deriving Repr, DecidableEq

/-- The value of a field of a note. -/
inductive FieldValue where
  | number (n : Nat)
  | text (s : String)
deriving Repr, DecidableEq

def FieldValue.render : FieldValue → String
  | number n => toString n
  | text s => s

namespace Note

def level : Note → Level
  | groupSignalled => .trace
  | waitFailed _ _ => .warn
  | groupSignalFailed _ => .warn
  | killFailed _ _ => .warn
  | _ => .debug

/-- The part of the program that notes it. -/
def target : Note → String
  | starting _ => "spawnkit_adapters::traced"
  | started => "spawnkit_adapters::traced"
  | launchFailed _ => "spawnkit_adapters::traced"
  | appendFailed _ _ => "spawnkit_adapters::sink"
  | _ => "spawnkit_engine::runner"

/-- What happened, without the particulars. -/
def message : Note → String
  | starting _ => "starting"
  | started => "started"
  | launchFailed _ => "launch failed"
  | retrying _ _ _ _ => "retrying transient launch failure"
  | waitFailed _ _ => "failed to wait on process"
  | groupSignalled => "signalled process group"
  | groupSignalFailed _ => "failed to signal process group"
  | deadlineReached _ _ => "deadline reached"
  | killFailed _ _ => "failed to kill timed out process"
  | appendFailed _ _ => "failed to append output chunk"
  | settled _ _ _ => "settled"

/-- The particulars, in the order in which they are written. -/
def fields : Note → List (String × FieldValue)
  | starting spec =>
    [ ("args", .text (RunOptions.listText (spec.args.map Text.quoteText))),
      ("env_count", .number spec.env.length) ]
  | started => []
  | launchFailed f => [("code", .text f.code), ("error", .text f.message)]
  | retrying command attempt code delay =>
    [ ("command", .text command), ("attempt", .number attempt.toNat), ("code", .text code),
      ("delay_ms", .number delay.millis) ]
  | waitFailed command error => [("command", .text command), ("error", .text error.message)]
  | groupSignalled => []
  | groupSignalFailed error => [("error", .text error.message)]
  | deadlineReached command timeout =>
    [("command", .text command), ("timeout_ms", .number timeout.millis)]
  | killFailed command error => [("command", .text command), ("error", .text error.message)]
  | appendFailed path error => [("path", .text path), ("error", .text error.message)]
  | settled command exitCode signal =>
    [ ("command", .text command),
      ("exit_code", .text (RunOptions.optionText (exitCode.map fun c => toString c.toInt))),
      ("signal", .text (RunOptions.optionText (signal.map Text.quoteText))) ]

/-- The note on one line. -/
def line (n : Note) : String :=
  n.level.name ++ " " ++ n.target ++ ": " ++ n.message ++
    String.join (n.fields.map fun f => " " ++ f.1 ++ "=" ++ f.2.render)

end Note

/-- What a run asks of the handle on a process. -/
inductive Request where
  /-- To ask the whole group to stop. -/
  | terminateGroup
  /-- To kill the process. -/
  | forceKill
deriving Repr, DecidableEq

/-- One thing that a run does to the outside. -/
inductive Effect where
  /-- Asks the system to start the command. -/
  | launch (spec : LaunchSpec)
  /-- Waits before the next launch. -/
  | pause (d : Duration)
  /-- Asks the handle on the process for something. -/
  | request (r : Request)
  /-- Tries to send a signal, as the handle does when it is asked. -/
  | signal (call : SignalCall)
  /-- Hands text to the receiver of a stream. -/
  | sink (stream : Stream) (text : String)
  | note (n : Note)
deriving Repr, DecidableEq

/-- Adds a piece of a stream to a session, and hands the text that it made certain to the receiver
of the stream, unless there is none. -/
def Session.deliver (s : Session) (stream : Stream) (bytes : List UInt8) : List Effect × Session :=
  let (text, s) := s.chunk stream bytes
  (if text.isEmpty then [] else [.sink stream text], s)

end Watchdog
