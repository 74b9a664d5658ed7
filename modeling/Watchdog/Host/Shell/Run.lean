import Watchdog.Host.Shell.Builtins

/-!
# Running scripts and programs

Scripts run commands, commands run programs, and one of the programs is the shell again, so all of
it is one recursion, bounded by fuel.  A script that runs out of fuel counts as one that never gets
further.
-/

namespace Watchdog.Host.Shell

/-- What the shell says when a program in the foreground was killed. -/
def deathNotice? (n : Nat) : Option String :=
  match n with
  | 1 => some "Hangup"
  | 3 => some "Quit"
  | 6 => some "Aborted"
  | 9 => some "Killed"
  | 11 => some "Segmentation fault"
  | 14 => some "Alarm clock"
  | 15 => some "Terminated"
  | _ => none

/-- As good as for ever. -/
def forever : Duration := .ofSeconds 1000000000

/-- The fuel of a program that is started from outside of a shell. -/
def fuelOutside : Nat := 200000

mutual

/-- The pieces that a part of a word expands to. -/
def expandPart (fuel : Nat) (s : State) (part : Part) : List Piece × State :=
  match fuel with
  | 0 => ([], { s with flow := .stuck })
  | fuel + 1 =>
    match part with
    | .text text quoted => ([.text text quoted], s)
    | .arith text quoted =>
      let (pieces, s) := match readParts (text.length + 1) .whole [] text.toList with
        | some (parts, _) => expandParts fuel s parts
        | none => ([.text text true], s)
      let text := joined pieces
      match Arithmetic.eval s.parameter? text with
      | .ok v => ([pieceOf quoted (toString v.toInt)], s)
      | .error e => ([], s.abort ("arithmetic expression: " ++ e.message ++ ": \"" ++ text ++ "\""))
    | .command script quoted =>
      let child := runScript fuel s.fork.keep script
      let (bytes, trace) := State.takeKept child.trace
      ([pieceOf quoted (dropNewlinesAtEnd (Utf8.lossy bytes))],
        s.join { child with trace := trace })
    | .param name use colon other quoted =>
      let value := s.parameter? name
      let missing := match value with
        | none => true
        | some v => colon && v.isEmpty
      let plain := match name, quoted with
        | "@", true => [Piece.apart s.args]
        | _, _ => [pieceOf quoted (value.getD "")]
      let others (s : State) : List Piece × State :=
        let (pieces, s) := expandParts fuel s other
        (if quoted then [.text (joined pieces) true] else pieces, s)
      match use with
      | .plain => (plain, s)
      | .length => ([pieceOf quoted (toString (value.getD "").utf8ByteSize)], s)
      | .useDefault => if missing then others s else (plain, s)
      | .alternative => if missing then ([.text "" quoted], s) else others s
      | .assignDefault =>
        if missing then
          let (pieces, s) := others s
          (pieces, s.assign name (joined pieces))
        else (plain, s)
      | .demand =>
        if missing then
          let (pieces, s) := others s
          let message := joined pieces
          ([], s.abort (name ++ ": " ++
            (if !message.isEmpty then message
            else if colon then "parameter not set or null" else "parameter not set")))
        else (plain, s)

/-- The pieces of a word. -/
def expandParts (fuel : Nat) (s : State) (parts : List Part) : List Piece × State :=
  match fuel, parts with
  | 0, _ => ([], { s with flow := .stuck })
  | _, [] => ([], s)
  | fuel + 1, part :: rest =>
    let (first, s) := expandPart fuel s part
    let (more, s) := expandParts fuel s rest
    (first ++ more, s)

/-- The arguments that words make. -/
def expandWords (fuel : Nat) (s : State) (acc : List String) (words : List Word) :
    List String × State :=
  match fuel, words with
  | 0, _ => ([], { s with flow := .stuck })
  | _, [] => (acc, s)
  | fuel + 1, w :: rest =>
    if isAllArguments w && s.args.isEmpty then expandWords fuel s acc rest
    else
      let (pieces, s) := expandParts fuel s w
      expandWords fuel s (acc ++ fieldsOf pieces) rest

/-- Carries out assignments. -/
def assignAll (fuel : Nat) (s : State) (exported : Bool) (assigns : List (String × Word)) : State :=
  match fuel, assigns with
  | 0, _ => { s with flow := .stuck }
  | _, [] => s
  | fuel + 1, (name, w) :: rest =>
    let (pieces, s) := expandParts fuel s w
    let s := s.assign name (joined pieces)
    assignAll fuel (if exported then s.exportVar name else s) exported rest

/-- Carries out redirections; the flag says whether all of them could be. -/
def redirectAll (fuel : Nat) (s : State) (redirects : List Redirect) : State × Bool :=
  match fuel, redirects with
  | 0, _ => ({ s with flow := .stuck }, false)
  | _, [] => (s, true)
  | fuel + 1, r :: rest =>
    let (pieces, s) := expandParts fuel s r.target
    match redirectTarget s r.kind (joined pieces) with
    | .error message => ((s.complain message).setStatus 2, false)
    | .ok outlet =>
      let s := match r.kind, r.fd with
        | .input, 0 => { s with trace := { s.trace with input := [] } }
        | .duplicate, 0 => s
        | _, fd => s.setOutlet fd outlet
      redirectAll fuel s rest

/-- Runs something with redirections that hold for it alone. -/
def redirected (fuel : Nat) (s : State) (redirects : List Redirect) (c : Command) : State :=
  match fuel with
  | 0 => { s with flow := .stuck }
  | fuel + 1 =>
    let (t, good) := redirectAll fuel s redirects
    (if good then runCommand fuel t c else t).restore s redirects

/-- Runs a command, unless the shell is leaving already. -/
def runCommand (fuel : Nat) (s : State) (c : Command) : State :=
  match fuel with
  | 0 => { s with flow := .stuck }
  | fuel + 1 =>
    if s.flow ≠ .next then s
    else
      match c with
      | .simple assigns words redirects => runSimple fuel s assigns words redirects
      | .sequence items => runSequence fuel (if items.isEmpty then s.setStatus 0 else s) items
      | .both a b =>
        let s := runCommand fuel s a
        if s.status = 0 then runCommand fuel s b else s
      | .either a b =>
        let s := runCommand fuel s a
        if s.status = 0 then s else runCommand fuel s b
      | .negate a =>
        let s := runCommand fuel s a
        if s.flow = .next then s.setStatus (if s.status = 0 then 1 else 0) else s
      | .branch test yes no =>
        let s := runCommand fuel s test
        runCommand fuel s (if s.status = 0 then yes else no)
      | .loop holds test body =>
        { runLoop fuel 0 { s with loops := s.loops + 1 } holds test body with loops := s.loops }
      | .forEach name words body =>
        let (items, s) := match words with
          | some words => expandWords fuel s [] words
          | none => (s.args, s)
        { runEach fuel { s with status := 0, loops := s.loops + 1 } name items body with
          loops := s.loops }
      | .group body redirects => redirected fuel s redirects body
      | .subshell body redirects =>
        let (child, good) := redirectAll fuel s.fork redirects
        if good then s.join (leaveShell fuel (runCommand fuel child body))
        else s.join child
      | .pipe a b =>
        let left := leaveShell fuel (runCommand fuel s.fork.keep a)
        let (bytes, trace) := State.takeKept left.trace
        let s := s.join { left with trace := trace }
        let right := { s.fork with trace := { s.trace with input := bytes } }
        s.join (leaveShell fuel (runCommand fuel right b))
      | .background a =>
        let (child, good) := match a with
          | .simple _ _ redirects => redirectAll fuel s.fork redirects
          | .group _ redirects => redirectAll fuel s.fork redirects
          | .subshell _ redirects => redirectAll fuel s.fork redirects
          | _ => (s.fork, true)
        let holds := child.holds
        let child := { child with trace := { child.trace with acts := [], input := [] } }
        let child := if good then leaveShell fuel (runCommand fuel child a) else child
        let child := if child.flow = .stuck then child.sleep forever else child
        let s := { s with
          trace := { s.trace with kept := child.trace.kept, guest := child.trace.guest }
          jobs := s.jobs ++ [(child.trace.clock, child.status)] }
        (s.act (.leave holds (child.ignored.contains 15) child.trace.acts.reverse)).setStatus 0

/-- Runs commands one after the other. -/
def runSequence (fuel : Nat) (s : State) (items : List Command) : State :=
  match fuel, items with
  | 0, _ => { s with flow := .stuck }
  | _, [] => s
  | fuel + 1, c :: rest => runSequence fuel (runCommand fuel s c) rest

/-- Repeats a body; `last` is the status of its last round. -/
def runLoop (fuel : Nat) (last : Nat) (s : State) (holds : Bool) (test body : Command) : State :=
  match fuel with
  | 0 => { s with flow := .stuck }
  | fuel + 1 =>
    let s := runCommand fuel s test
    match s.flow with
    | .next =>
      if (s.status == 0) != holds then s.setStatus last
      else
        let s := runCommand fuel s body
        match s.flow with
        | .next => runLoop fuel s.status s holds test body
        | .breakLoop n => { s with flow := if n ≤ 1 then .next else .breakLoop (n - 1) }
        | .continueLoop n =>
          if n ≤ 1 then runLoop fuel s.status { s with flow := .next } holds test body
          else { s with flow := .continueLoop (n - 1) }
        | _ => s
    | .breakLoop n => { s with flow := if n ≤ 1 then .next else .breakLoop (n - 1) }
    | _ => s

/-- Runs a body for each of some values. -/
def runEach (fuel : Nat) (s : State) (name : String) (items : List String) (body : Command) : State :=
  match fuel, items with
  | 0, _ => { s with flow := .stuck }
  | _, [] => s
  | fuel + 1, item :: rest =>
    let s := runCommand fuel (s.assign name item) body
    match s.flow with
    | .next => runEach fuel s name rest body
    | .breakLoop n => { s with flow := if n ≤ 1 then .next else .breakLoop (n - 1) }
    | .continueLoop n =>
      if n ≤ 1 then runEach fuel { s with flow := .next } name rest body
      else { s with flow := .continueLoop (n - 1) }
    | _ => s

/-- Runs a simple command. -/
def runSimple (fuel : Nat) (s : State) (assigns : List (String × Word)) (words : List Word)
    (redirects : List Redirect) : State :=
  match fuel with
  | 0 => { s with flow := .stuck }
  | fuel + 1 =>
    let (argv, s) := expandWords fuel s [] words
    if s.flow ≠ .next then s
    else
      match argv with
      | [] =>
        let (t, good) := redirectAll fuel s redirects
        let s := t.restore s redirects
        if !good then s
        else
          let s := assignAll fuel s false assigns
          if assigns.any fun a => substitutes a.2 then s else s.setStatus 0
      | "exec" :: argv =>
        let before := s.holds
        let (s, good) := redirectAll fuel s redirects
        if !good then { s with flow := .leave }
        else
          let s := assignAll fuel s true assigns
          match argv with
          | [] => (s.release before).setStatus 0
          | name :: args =>
            let s := s.release before
            let (t, ending) := runProgram fuel s name args
            match ending with
            | .exited n => { t with status := n, flow := .leave, traps := [] }
            | .signaled n => { t with flow := .killed n }
            | .never => { t with flow := .stuck }
      | name :: args =>
        let (t, good) := redirectAll fuel s redirects
        let after :=
          if !good then t
          else
            match runBuiltin fuel t name args with
            | some done =>
              if assigns.isEmpty then done
              else { done with vars := done.vars, exported := done.exported }
            | none =>
              let t' := assignAll fuel t true assigns
              let (u, ending) := runProgram fuel t' name args
              let u := { t with trace := u.trace }.setStatus ending.shellStatus
              match ending with
              | .exited _ => u
              | .signaled n =>
                match deathNotice? n with
                | some text => u.warn text
                | none => u
              | .never => { u with flow := .stuck }
        after.restore s redirects

/-- Runs a builtin; `none` if there is none of that name. -/
def runBuiltin (fuel : Nat) (s : State) (name : String) (args : List String) : Option State :=
  match fuel with
  | 0 => some { s with flow := .stuck }
  | fuel + 1 =>
    match name with
    | "eval" => some (runScript fuel s (" ".intercalate args))
    | "kill" =>
      match killWords args with
      | none => some ((s.complain "kill: usage error").setStatus 2)
      | some (signal, targets) => some (killAll fuel (s.setStatus 0) signal targets)
    | _ => plainBuiltin s name args

/-- Sends a signal to processes.  The script itself is hit, and whoever watches the command is
stopped or let go on. -/
def killAll (fuel : Nat) (s : State) (signal : Nat) (targets : List String) : State :=
  match fuel, targets with
  | 0, _ => { s with flow := .stuck }
  | _, [] => s
  | fuel + 1, target :: rest =>
    let own := target = toString s.pid || target = "0" || target = "-" ++ toString s.pid
    let job := match target.toNat? with
      | some n => s.pid < n && n ≤ s.pid + s.jobs.length
      | none => false
    let s :=
      if target = toString State.watcher then
        if Signal.stopping signal then s.act .haltWatcher
        else if signal = Signal.resume then s.act .resumeWatcher
        else s
      else if !own then if job then s else (s.complain "kill: No such process\n").setStatus 1
      else if signal = 9 then { s with flow := .killed 9 }
      else if Signal.harmless signal || s.ignored.contains signal then s
      else
        match s.traps.find? (·.1 == signal) with
        | some (_, commands) => runScript fuel s commands
        | none => { s with flow := if Signal.stopping signal then .stuck else .killed signal }
    if s.flow = .next then killAll fuel s signal rest else s

/-- Runs the commands for the exit of a shell. -/
def leaveShell (fuel : Nat) (s : State) : State :=
  match fuel with
  | 0 => { s with flow := .stuck }
  | fuel + 1 =>
    match s.flow, s.traps.find? (·.1 == 0) with
    | .killed _, _ => s
    | .stuck, _ => s
    | _, none => s
    | _, some (_, commands) =>
      let after := runScript fuel { s with traps := [], flow := .next } commands
      match after.flow with
      | .next => { after with status := s.status, flow := .leave }
      | _ => after

/-- Reads a script and runs it. -/
def runScript (fuel : Nat) (s : State) (script : String) : State :=
  match fuel with
  | 0 => { s with flow := .stuck }
  | fuel + 1 =>
    match parse script with
    | some c => runCommand fuel s c
    | none => s.abort "Syntax error"

/-- Starts a program from the shell: what it leaves of the shell's trace, and how it ended. -/
def runProgram (fuel : Nat) (s : State) (name : String) (args : List String) : State × Ending :=
  match fuel with
  | 0 => (s, .never)
  | fuel + 1 =>
    match s.callGuest? name args, Files.resolve s.dir (s.environment.value? "PATH") name with
    | some (s, status), _ => (s, .exited status)
    | none, .ok program => runNamed fuel s program name args
    | none, .error e =>
      if e = .noEntry then (s.complain (name ++ ": not found"), .exited 127)
      else (s.complain (name ++ ": " ++ e.text), .exited 126)

/-- Runs a program found under a name. -/
def runNamed (fuel : Nat) (s : State) (program name : String) (args : List String) :
    State × Ending :=
  match fuel with
  | 0 => (s, .never)
  | fuel + 1 =>
    if isShell program then runShell fuel s name args
    else if program = "env" then
      let (env, ignored, rest) := envWords s.environment s.ignored args
      match rest with
      | [] => (printVariables s env [], .exited 0)
      | name :: args =>
        let inner := { s with vars := env, exported := env.map (·.1), ignored := ignored }
        let (t, ending) := runWith fuel inner "env" name args
        ({ s with trace := t.trace }, ending)
    else if program = "setpriv" then
      let (other, rest) := setprivWords false args
      if other then (s.warn "setpriv: setresuid failed: Operation not permitted", .exited 127)
      else
        match rest with
        | [] => (s.warn "setpriv: No program specified", .exited 1)
        | name :: args => runWith fuel s "setpriv" name args
    else
      match plainProgram { s with name := name } program args with
      | some t =>
        ({ s with trace := t.trace }, if t.flow = .stuck then .never else .exited t.status)
      | none => (s, .exited 0)

/-- Runs the program that another program was asked to run. -/
def runWith (fuel : Nat) (s : State) (runner name : String) (args : List String) : State × Ending :=
  match fuel with
  | 0 => (s, .never)
  | fuel + 1 =>
    match s.callGuest? name args, Files.resolve s.dir (s.environment.value? "PATH") name with
    | some (s, status), _ => (s, .exited status)
    | none, .ok program => runNamed fuel s program name args
    | none, .error e =>
      let shown := if runner = "env" then "\x27" ++ name ++ "\x27" else "failed to execute " ++ name
      (s.warn (runner ++ ": " ++ shown ++ ": " ++ e.text), .exited (if e = .noEntry then 127 else 126))

/-- Runs a shell as a program. -/
def runShell (fuel : Nat) (s : State) (name : String) (args : List String) : State × Ending :=
  match fuel with
  | 0 => (s, .never)
  | fuel + 1 =>
    let start (name : String) (args : List String) : State :=
      State.start s.trace s.outlets s.ignored (s.pid + 1000) s.pid s.environment s.dir name args
    let done := match args with
      | "-c" :: script :: "--" :: rest => runScript fuel (start (rest.headD name) rest.tail) script
      | "-c" :: script :: rest => runScript fuel (start (rest.headD name) rest.tail) script
      | ["-c"] => ((start name []).warn (name ++ ": 0: -c requires an argument")).setStatus 2
      | [] =>
        let s := start name []
        runScript fuel { s with trace := { s.trace with input := [] } } (Utf8.lossy s.trace.input)
      | file :: rest =>
        let s := start name rest
        match Files.lookUp s.dir file with
        | .error e =>
          (s.warn (name ++ ": 0: cannot open " ++ file ++ ": " ++
            (if e = .noEntry then "No such file" else e.text))).setStatus 2
        | .ok _ => s
    let done := leaveShell fuel done
    let after := { s with trace := done.trace }
    match done.flow with
    | .killed n => (after, .signaled n)
    | .stuck => (after, .never)
    | _ => (after, .exited done.status)

end

end Watchdog.Host.Shell
