import Watchdog.System.Errno

/-!
# Files and programs

The part of the file system that matters for starting commands: some directories, some files that
are no programs, and the programs.
-/

namespace Watchdog.Host

/-- What stands at a path. -/
inductive FileKind where
  | directory
  | plain
  | program (name : String)
deriving Repr, DecidableEq

namespace Files

/-- The directories, each by the names on the way to it. -/
def directories : List (List String) :=
  [ [], ["bin"], ["boot"], ["dev"], ["etc"], ["home"], ["lib"], ["mnt"], ["opt"], ["proc"],
    ["root"], ["run"], ["sbin"], ["srv"], ["sys"], ["tmp"], ["usr"], ["usr", "bin"],
    ["usr", "lib"], ["usr", "local"], ["usr", "local", "bin"], ["usr", "local", "sbin"],
    ["usr", "sbin"], ["usr", "share"], ["var"], ["var", "log"], ["var", "tmp"] ]

/-- The directories with programs. -/
def programDirs : List (List String) := [["bin"], ["usr", "bin"]]

/-- The programs, all of them in each of these directories. -/
def programs : List String :=
  [ "[", "bash", "cat", "dash", "echo", "env", "false", "head", "printenv", "printf", "pwd",
    "seq", "setpriv", "sh", "sleep", "test", "tr", "true" ]

/-- Files that cannot be run. -/
def plainFiles : List (List String) :=
  [ ["dev", "full"], ["dev", "null"], ["dev", "tty"], ["dev", "zero"], ["etc", "group"],
    ["etc", "hostname"], ["etc", "hosts"], ["etc", "passwd"] ]

/-- What stands at the end of a way from the root. -/
def kind? (way : List String) : Option FileKind :=
  if directories.contains way then some .directory
  else if plainFiles.contains way then some .plain
  else
    match way.getLast? with
    | some name =>
      if programs.contains name && programDirs.contains way.dropLast then some (.program name)
      else none
    | none => none

/-- The longest name that a file can have. -/
def maxName : Nat := 255

/-- The length at which a path is too long. -/
def maxPath : Nat := 4096

/-- File name too long. -/
def nameTooLong : Errno := ⟨36⟩

/-- Argument list too long. -/
def argsTooLong : Errno := ⟨7⟩

/-- Follows names from a way. -/
def follow (way : List String) : List String → Except Errno (List String)
  | [] => .ok way
  | name :: rest =>
    if kind? way ≠ some .directory then .error .notDirectory
    else if name.utf8ByteSize > maxName then .error nameTooLong
    else if name = "." then follow way rest
    else if name = ".." then follow way.dropLast rest
    else if (kind? (way ++ [name])).isNone then .error .noEntry
    else follow (way ++ [name]) rest

/-- The names of a path. -/
def names (path : String) : List String := (path.splitOn "/").filter (!·.isEmpty)

/-- The way to which a path leads, seen from a directory. -/
def locate (dir : List String) (path : String) : Except Errno (List String) :=
  if path.isEmpty then .error .noEntry
  else if path.utf8ByteSize ≥ maxPath then .error nameTooLong
  else
    match follow (if path.startsWith "/" then [] else dir) (names path) with
    | .error e => .error e
    | .ok way =>
      if path.endsWith "/" && kind? way ≠ some .directory then .error .notDirectory else .ok way

/-- What stands at a path. -/
def lookUp (dir : List String) (path : String) : Except Errno FileKind := do
  let way ← locate dir path
  match kind? way with
  | some k => .ok k
  | none => .error .noEntry

/-- The path of a way. -/
def render (way : List String) : String := "/" ++ "/".intercalate way

/-- The program at a path. -/
def program (dir : List String) (path : String) : Except Errno String :=
  match lookUp dir path with
  | .error e => .error e
  | .ok (.program name) => .ok name
  | .ok _ => .error .access

/-- Looks for a program in the directories of a search path.  One that may not be run is passed
over, but remembered as the reason if no other is found. -/
def search (dir : List String) (name : String) (denied : Bool) : List String → Except Errno String
  | [] => .error (if denied then .access else .noEntry)
  | place :: rest =>
    match program dir (if place.isEmpty then "./" ++ name else place ++ "/" ++ name) with
    | .ok p => .ok p
    | .error e => if e = nameTooLong then .error e else search dir name (denied || e = .access) rest

/-- Where programs are looked for without a search path. -/
def defaultSearchPath : String := "/bin:/usr/bin"

/-- The program that a command names: a path if it has a slash, else a name to search for. -/
def resolve (dir : List String) (searchPath : Option String) (command : String) :
    Except Errno String :=
  if command.isEmpty then .error .noEntry
  else if command.toList.contains '/' then program dir command
  else search dir command false ((searchPath.getD defaultSearchPath).splitOn ":")

end Files

end Watchdog.Host
