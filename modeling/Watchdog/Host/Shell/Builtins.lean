import Watchdog.Host.Shell.Programs
import Watchdog.Host.Shell.Words

/-!
# Builtins

What a shell does itself: the commands that change its state, and where redirections lead.
-/

namespace Watchdog.Host.Shell

/-- The signal and the targets in the words of `kill`. -/
def killWords : List String → Option (Nat × List String)
  | "-s" :: name :: rest => (signalNumber? name).map (·, rest)
  | "--" :: rest => some (15, rest)
  | first :: rest =>
    match first.toList with
    | '-' :: c :: more =>
      (signalNumber? (String.ofList (c :: more))).map fun n => (n, if rest.head? = some "--" then rest.tail else rest)
    | _ => some (15, first :: rest)
  | [] => none

/-- Splits a word at its first equals sign, if a name comes before it. -/
def assignmentWord? (word : String) : Option (String × String) :=
  let name := word.toList.takeWhile (· != '=')
  match word.toList.drop name.length, name with
  | _ :: value, c :: _ =>
    if isNameStart c && name.all isNameChar then some (String.ofList name, String.ofList value) else none
  | _, _ => none

/-- The values that `read` gives to its names. -/
def readValues (names : List String) (line : List Char) : List (String × String) :=
  match names with
  | [] => []
  | [name] => [(name, String.ofList ((line.dropWhile isBlankChar).reverse.dropWhile isBlankChar).reverse)]
  | name :: rest =>
    let line := line.dropWhile isBlankChar
    (name, String.ofList (line.takeWhile (!isBlankChar ·))) ::
      readValues rest (line.dropWhile (!isBlankChar ·))

/-- The exit status that a number asks for. -/
def exitStatus (text : String) (current : Nat) : Nat :=
  if text.isEmpty then current else text.toNat?.getD 2 % 256

/-- A trap that `trap` sets. -/
def setTrap (s : State) (commands : String) (signal : Nat) : State :=
  let traps := s.traps.filter (·.1 != signal)
  let ignored := s.ignored.filter (· != signal)
  if commands = "-" then { s with traps := traps, ignored := ignored }
  else if commands.isEmpty then { s with traps := traps, ignored := signal :: ignored }
  else { s with traps := (signal, commands) :: traps, ignored := ignored }

/-- Changes the directory. -/
def changeDir (s : State) (path : String) : State :=
  match Files.locate s.dir path with
  | .ok way =>
    if Files.kind? way = some .directory then
      ({ s with dir := way }.assign "PWD" (Files.render way)).setStatus 0
    else (s.complain ("cd: can't cd to " ++ path)).setStatus 2
  | .error _ => (s.complain ("cd: can't cd to " ++ path)).setStatus 2

/-- Waits for what was left behind. -/
def waitJobs (s : State) (args : List String) : State :=
  let until? (s : State) (time : Duration) : State := s.sleep (time - s.trace.clock)
  if args.isEmpty then (s.jobs.foldl (fun s job => until? s job.1) s).setStatus 0
  else
    args.foldl (fun s arg =>
      match (arg.toNat?.bind fun n => s.jobs[n - s.pid - 1]?) with
      | some job => (until? s job.1).setStatus job.2
      | none => s.setStatus 127) s

/-- Builtins that run nothing else; `none` for other names. -/
def plainBuiltin (s : State) (name : String) (args : List String) : Option State :=
  match name with
  | ":" => some (s.setStatus 0)
  | "echo" => some (s.put (Format.echo true args))
  | "exit" => some { s with status := exitStatus (args.headD "") s.status, flow := .leave }
  | "cd" => some (changeDir s (args.headD ((s.vars.value? "HOME").getD "/")))
  | "read" =>
    let names := args.filter fun a => !a.startsWith "-"
    let line := s.trace.input.takeWhile (· != 10)
    let rest := s.trace.input.drop line.length
    let s := { s with trace := { s.trace with input := rest.drop 1 } }
    let s := (readValues names (Utf8.lossy line).toList).foldl (fun s v => s.assign v.1 v.2) s
    some (s.setStatus (if rest.isEmpty then 1 else 0))
  | "export" =>
    some <| (args.foldl (fun s arg => match assignmentWord? arg with
      | some (name, value) => (s.assign name value).exportVar name
      | none => s.exportVar arg) s).setStatus 0
  | "unset" =>
    some ({ s with vars := args.foldl Environment.remove s.vars }.setStatus 0)
  | "set" =>
    match args with
    | "--" :: rest => some ({ s with args := rest }.setStatus 0)
    | _ => some (s.setStatus 0)
  | "shift" =>
    let n := (args.headD "1").toNat?.getD 1
    if n ≤ s.args.length then some ({ s with args := s.args.drop n }.setStatus 0)
    else some (s.abort "shift: can't shift that many")
  | "trap" =>
    match args with
    | commands :: signals =>
      some ((signals.filterMap signalNumber?).foldl (fun s n => setTrap s commands n) s |>.setStatus 0)
    | [] => some (s.setStatus 0)
  | "wait" => some (waitJobs s args)
  | "break" =>
    let levels := min s.loops ((args.headD "1").toNat?.getD 1)
    some { s with status := 0, flow := if levels = 0 then .next else .breakLoop levels }
  | "continue" =>
    let levels := min s.loops ((args.headD "1").toNat?.getD 1)
    some { s with status := 0, flow := if levels = 0 then .next else .continueLoop levels }
  | "sleep" => none
  | "cat" => none
  | "head" => none
  | "seq" => none
  | "tr" => none
  | "printenv" => none
  | _ => plainProgram s name args

/-- Where a redirection leads; an error has a message. -/
def redirectTarget (s : State) (kind : RedirectKind) (target : String) :
    Except String (Option Outlet) :=
  let path (missing : String) : Except String (Option Outlet) :=
    match Files.lookUp s.dir target with
    | .ok .directory => .error (missing ++ target ++ ": Is a directory")
    | .ok _ => .ok (some .nowhere)
    | .error e =>
      let parent := "/".intercalate ((target.splitOn "/").dropLast)
      let parent := if target.toList.contains '/' then parent ++ "/" else "."
      match kind, Files.lookUp s.dir parent with
      | .input, _ => .error (missing ++ target ++ ": " ++ (if e = .noEntry then "No such file" else e.text))
      | _, .ok .directory => .ok (some .nowhere)
      | _, _ => .error (missing ++ target ++ ": Directory nonexistent")
  match kind with
  | .duplicate =>
    if target = "-" then .ok none
    else
      match target.toNat? with
      | some fd =>
        match s.outlet? fd with
        | some o => .ok (some o)
        | none => .error (target ++ ": Bad file descriptor")
      | none => .error ("Bad fd number")
  | .input => path "cannot open "
  | _ =>
    match target with
    | "/dev/stdout" => .ok (s.outlet? 1)
    | "/dev/stderr" => .ok (s.outlet? 2)
    | _ => path "cannot create "

end Watchdog.Host.Shell
