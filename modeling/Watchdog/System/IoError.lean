import Watchdog.System.Errno

/-!
# Errors of input and output

What an operation on files, pipes or processes can fail with: a number from the operating system,
or one of a few kinds of error found before the system was asked, with or without a text of its own.
-/

namespace Watchdog

/-- The kinds of error that need no system call. -/
inductive IoErrorKind where
  | notFound
  | permissionDenied
  | alreadyExists
  | invalidInput
  | timedOut
  | interrupted
  | wouldBlock
  | brokenPipe
  | invalidData
  | unexpectedEof
  | other
deriving Repr, DecidableEq

namespace IoErrorKind

/-- The text of a kind. -/
def message : IoErrorKind → String
  | notFound => "entity not found"
  | permissionDenied => "permission denied"
  | alreadyExists => "entity already exists"
  | invalidInput => "invalid input parameter"
  | timedOut => "timed out"
  | interrupted => "operation interrupted"
  | wouldBlock => "operation would block"
  | brokenPipe => "broken pipe"
  | invalidData => "invalid data"
  | unexpectedEof => "unexpected end of file"
  | other => "other error"

/-- The code that stands for a kind; kinds without a usual error number share one. -/
def code : IoErrorKind → String
  | notFound => "ENOENT"
  | permissionDenied => "EACCES"
  | alreadyExists => "EEXIST"
  | invalidInput => "EINVAL"
  | timedOut => "ETIMEDOUT"
  | interrupted => "EINTR"
  | _ => "UNKNOWN"

end IoErrorKind

/-- An error of input or output. -/
inductive IoError where
  | system (errno : Errno)
  | simple (kind : IoErrorKind)
  | custom (kind : IoErrorKind) (text : String)
deriving Repr, DecidableEq

namespace IoError

def message : IoError → String
  | system e => e.message
  | simple kind => kind.message
  | custom _ text => text

/-- The symbolic code: of a known error number its own, else the one of the kind. -/
def code : IoError → String
  | system e => e.code?.getD "UNKNOWN"
  | simple kind => kind.code
  | custom kind _ => kind.code

/-- A command, argument, variable or directory with a zero byte in it. -/
def zeroByte : IoError := custom .invalidInput "nul byte found in provided data"

end IoError

end Watchdog
