import Watchdog.Session
import Watchdog.System.Errno

/-!
# Log files

Unless told otherwise, the output of commands is appended to two files of one directory, one for
each stream.  Text that cannot be written is dropped.  Cleaning removes both files.
-/

namespace Watchdog

/-- What stands at a path. -/
inductive FileEntry where
  | absent
  | file (text : String)
  | directory
deriving Repr, DecidableEq

namespace FileEntry

/-- Writes text at the end, making the file if need be. -/
def append (text : String) : FileEntry → Except Errno FileEntry
  | absent => .ok (.file text)
  | file old => .ok (.file (old ++ text))
  | directory => .error .isDirectory

/-- Removes the file; that there is none is no error. -/
def remove : FileEntry → Except Errno FileEntry
  | absent => .ok .absent
  | file _ => .ok .absent
  | directory => .error .isDirectory

end FileEntry

/-- The paths of the two files. -/
structure LogPaths where
  stdout : String
  stderr : String
deriving Repr, DecidableEq

namespace LogPaths

/-- A name within a directory; the empty directory is the current one. -/
def join (dir name : String) : String :=
  if dir.isEmpty || dir.toList.getLast? == some '/' then dir ++ name else dir ++ "/" ++ name

def inDir (dir : String) : LogPaths :=
  ⟨join dir "spawnkit-stdout.log", join dir "spawnkit-stderr.log"⟩

/-- The directory that the environment names: the one for logs, else the one for temporary files. -/
def defaultDir (logDir tmpDir : Option String) : String :=
  match logDir with
  | some dir => if dir.isEmpty then tmpDir.getD "/tmp" else dir
  | none => tmpDir.getD "/tmp"

def path (p : LogPaths) : Stream → String
  | .stdout => p.stdout
  | .stderr => p.stderr

end LogPaths

/-- The two files, and whether the directory for them exists. -/
structure LogFiles where
  dirExists : Bool
  stdout : FileEntry
  stderr : FileEntry
deriving Repr, DecidableEq

namespace LogFiles

/-- An empty directory, or one that does not exist yet. -/
def fresh (dirExists : Bool) : LogFiles := ⟨dirExists, .absent, .absent⟩

/-- Appends text to the file of a stream. -/
def append (l : LogFiles) (stream : Stream) (text : String) : Except Errno LogFiles :=
  if !l.dirExists then .error .noEntry
  else
    match stream with
    | .stdout => (l.stdout.append text).map fun e => { l with stdout := e }
    | .stderr => (l.stderr.append text).map fun e => { l with stderr := e }

/-- What a receiver of output does: text that cannot be appended is dropped. -/
def sink (l : LogFiles) (stream : Stream) (text : String) : LogFiles :=
  match l.append stream text with
  | .ok l => l
  | .error _ => l

/-- Removes first the one file, then the other; an error ends it. -/
def clean (l : LogFiles) : LogFiles × Except Errno Unit :=
  match l.stdout.remove with
  | .error e => (l, .error e)
  | .ok entry =>
    let l := { l with stdout := entry }
    match l.stderr.remove with
    | .error e => (l, .error e)
    | .ok entry => ({ l with stderr := entry }, .ok ())

/-! ## Steps from outside -/

/-- Makes the directory. -/
def makeDir (l : LogFiles) : LogFiles := { l with dirExists := true }

/-- Puts a directory in the place of a file. -/
def block (l : LogFiles) : Stream → LogFiles
  | .stdout => { l with dirExists := true, stdout := .directory }
  | .stderr => { l with dirExists := true, stderr := .directory }

end LogFiles

end Watchdog
