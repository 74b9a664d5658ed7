import Watchdog.Host.Shell.Condition
import Watchdog.Host.Shell.Format
import Watchdog.System.Signal

/-!
# Programs

Programs that only write, wait or look, and what the programs that run another one are told before
it.
-/

namespace Watchdog.Host.Shell

/-- How long a text says to sleep: a decimal number, perhaps with a unit. -/
def sleepTime? (text : String) : Option Duration :=
  let cs := text.toList
  let whole := cs.takeWhile Char.isDigit
  let rest := cs.drop whole.length
  let (fraction, rest) := match rest with
    | '.' :: rest => (rest.takeWhile Char.isDigit, rest.dropWhile Char.isDigit)
    | rest => ([], rest)
  let unit? := match rest with
    | [] => some 1
    | ['s'] => some 1
    | ['m'] => some 60
    | ['h'] => some 3600
    | ['d'] => some 86400
    | _ => none
  if whole.isEmpty && fraction.isEmpty then none
  else
    let digits := String.ofList (whole ++ (fraction ++ List.replicate 9 '0').take 9)
    unit?.bind fun unit => digits.toNat?.map fun n => ⟨n * unit⟩

/-- What `cat` does with one of its arguments. -/
def catFile (s : State) (path : String) : State :=
  if path = "-" then
    let bytes := s.trace.input
    ({ s with trace := { s.trace with input := [] } }.emit 1 bytes).1
  else
    match Files.lookUp s.dir path with
    | .error e => (s.warn ("cat: " ++ path ++ ": " ++ e.text)).setStatus 1
    | .ok .directory => (s.warn ("cat: " ++ path ++ ": Is a directory")).setStatus 1
    | .ok _ => s

/-- The numbers from `first` to `last` in steps, a line each; `fuel` bounds how many. -/
def countLines (fuel : Nat) (first step last : Int) : List UInt8 :=
  match fuel with
  | 0 => []
  | fuel + 1 =>
    if (0 < step && last < first) || (step < 0 && first < last) then []
    else Utf8.encode (toString first ++ "\n") ++ countLines fuel (first + step) step last

/-- What `seq` does with one to three whole numbers. -/
def seqWords (s : State) (args : List String) : State :=
  let count (first step last : Int) : State :=
    if step = 0 then
      ((s.warn "seq: invalid Zero increment value: \x270\x27").warn
        "Try 'seq --help' for more information.").setStatus 1
    else s.put (countLines ((last - first).natAbs / step.natAbs + 1) first step last)
  match args.find? fun a => a.toInt?.isNone with
  | some bad =>
    ((s.warn ("seq: invalid floating point argument: \x27" ++ bad ++ "\x27")).warn
      "Try 'seq --help' for more information.").setStatus 1
  | none =>
    match args.filterMap String.toInt? with
    | [last] => count 1 1 last
    | [first, last] => count first 1 last
    | [first, step, last] => count first step last
    | [] => ((s.warn "seq: missing operand").warn
        "Try 'seq --help' for more information.").setStatus 1
    | _ => ((s.warn ("seq: extra operand \x27" ++ args.getD 3 "" ++ "\x27")).warn
        "Try 'seq --help' for more information.").setStatus 1

/-- The first `n` lines of a text. -/
def firstLines (n : Nat) (bytes : List UInt8) : List UInt8 :=
  match n, bytes with
  | 0, _ => []
  | _, [] => []
  | n + 1, b :: rest => b :: firstLines (if b = 10 then n else n + 1) rest

/-- What `head` does: the first lines or bytes of its input or of a file. -/
def headWords (s : State) (args : List String) : State :=
  let rec go (lines : Nat) (bytes? : Option Nat) : List String → State
    | "-n" :: n :: rest => go (n.toNat?.getD lines) none rest
    | "-c" :: n :: rest => go lines n.toNat? rest
    | arg :: rest =>
      if arg.startsWith "-n" then go (((arg.drop 2).toString.toNat?).getD lines) none rest
      else if arg.startsWith "-c" then go lines (arg.drop 2).toString.toNat? rest
      else if arg.startsWith "-" then go (((arg.drop 1).toString.toNat?).getD lines) none rest
      else
        match Files.lookUp s.dir arg with
        | .error e =>
          (s.warn ("head: cannot open \x27" ++ arg ++ "\x27 for reading: " ++ e.text)).setStatus 1
        | .ok .directory => (s.warn ("head: error reading \x27" ++ arg ++ "\x27: Is a directory")).setStatus 1
        | .ok _ =>
          if arg = "/dev/zero" then s.put (List.replicate (bytes?.getD 0) 0) else s.setStatus 0
    | [] =>
      let input := s.trace.input
      let s := { s with trace := { s.trace with input := [] } }
      s.put (match bytes? with
        | some n => input.take n
        | none => firstLines lines input)
  go 10 none args

/-- The bytes of a set that `tr` is given: escapes, octal ones among them, ranges and plain
characters. -/
def setBytes (cs : List Char) : List UInt8 :=
  match cs with
  | [] => []
  | '\\' :: c :: rest =>
    if Format.isOctal c then
      let read := Format.octal 3 (c :: rest)
      read.1 :: setBytes read.2
    else
      match Format.escape? c with
      | some byte => byte :: setBytes rest
      | none => Utf8.encode (String.singleton c) ++ setBytes rest
  | a :: '-' :: b :: rest =>
    (List.range' a.toNat (b.toNat + 1 - a.toNat)).map UInt8.ofNat ++ setBytes rest
  | c :: rest => Utf8.encode (String.singleton c) ++ setBytes rest
termination_by cs.length
decreasing_by
  · have := Format.octal_length_le 3 (c :: rest)
    simp only [List.length_cons] at this ⊢
    omega
  all_goals
    simp only [List.length_cons]
    omega

/-- What `tr` does with its input: it deletes the bytes of a set, or puts those of another set in
their places, the last of them as often as needed. -/
def trWords (s : State) (args : List String) : State :=
  let input := s.trace.input
  let rest := { s with trace := { s.trace with input := [] } }
  match args with
  | ["-d", set] =>
    let deleted := setBytes set.toList
    rest.put (input.filter fun b => !deleted.contains b)
  | [set, others] =>
    let places := setBytes set.toList
    let others := setBytes others.toList
    rest.put (input.map fun b => match places.idxOf? b with
      | some i => others[i]?.getD (others.getLast?.getD b)
      | none => b)
  | [set] =>
    (((s.warn ("tr: missing operand after \x27" ++ set ++ "\x27")).warn
      "Two strings must be given when translating.").warn
        "Try 'tr --help' for more information.").setStatus 1
  | _ => ((s.warn "tr: missing operand").warn
      "Try 'tr --help' for more information.").setStatus 1

/-- The variables that `printenv` or `env` print. -/
def printVariables (s : State) (env : Environment) (names : List String) : State :=
  if names.isEmpty then
    s.put (env.flatMap fun v => Utf8.encode (v.1 ++ "=" ++ v.2 ++ "\n"))
  else
    let s := s.put (names.flatMap fun name => match env.value? name with
      | some value => Utf8.encode (value ++ "\n")
      | none => [])
    s.setStatus (if names.all fun name => (env.value? name).isSome then 0 else 1)

/-- Sleeps as long as all arguments say together. -/
def sleepWords (s : State) (args : List String) : State :=
  match args.find? fun a => (sleepTime? a).isNone && a != "infinity" with
  | some bad =>
    ((s.warn ("sleep: invalid time interval \x27" ++ bad ++ "\x27")).warn
      "Try 'sleep --help' for more information.").setStatus 1
  | none =>
    if args.isEmpty then
      ((s.warn "sleep: missing operand").warn
        "Try 'sleep --help' for more information.").setStatus 1
    else if args.contains "infinity" then { s with flow := .stuck }
    else (s.sleep (args.foldl (fun d a => d + (sleepTime? a).getD ⟨0⟩) ⟨0⟩)).setStatus 0

/-- The result of a condition as a status. -/
def conditionWords (s : State) (label : String) (args : List String) : State :=
  let result :=
    if label = "[" then
      match args.getLast? with
      | some "]" => Condition.eval s.dir args.dropLast
      | _ => .error "missing ]"
    else Condition.eval s.dir args
  match result with
  | .ok b => s.setStatus (if b then 0 else 1)
  | .error message => (s.complain (label ++ ": " ++ message)).setStatus 2

/-- Programs that only write, wait or look; `none` for the others. -/
def plainProgram (s : State) (name : String) (args : List String) : Option State :=
  match name with
  | "true" => some (s.setStatus 0)
  | "false" => some (s.setStatus 1)
  | "echo" => some (s.put (Format.echo false args))
  | "printf" =>
    match args with
    | [] => some ((s.warn "printf: missing operand").setStatus 1)
    | format :: args => some (s.put (Format.printf Arithmetic.number? format args))
  | "pwd" => some (s.put (Utf8.encode (Files.render s.dir ++ "\n")))
  | "sleep" => some (sleepWords s args)
  | "cat" => some ((if args.isEmpty then ["-"] else args).foldl catFile (s.setStatus 0))
  | "head" => some (headWords s args)
  | "seq" => some (seqWords s args)
  | "tr" => some (trWords s args)
  | "printenv" => some (printVariables s s.environment args)
  | "test" => some (conditionWords s "test" args)
  | "[" => some (conditionWords s "[" args)
  | _ => none

/-- The shells. -/
def isShell (name : String) : Bool := ["sh", "dash", "bash"].contains name

/-- The number of a signal given by number or name. -/
def signalNumber? (text : String) : Option Nat :=
  match text.toNat? with
  | some n => some n
  | none =>
    let name := if text.startsWith "SIG" then text else "SIG" ++ text
    if text = "EXIT" then some 0
    else (Signal.table.find? (·.2 == name)).map fun entry => entry.1.toNat

/-- What `env` is told before the command: the environment and the ignored signals for it, and the
rest. -/
def envWords (env : Environment) (ignored : List Nat) :
    List String → Environment × List Nat × List String
  | [] => (env, ignored, [])
  | "-i" :: rest => envWords [] ignored rest
  | "-u" :: name :: rest => envWords (env.remove name) ignored rest
  | "--" :: rest => (env, ignored, rest)
  | word :: rest =>
    match word.splitOn "=" with
    | ["--ignore-signal", signals] =>
      envWords env ((signals.splitOn ",").filterMap signalNumber? ++ ignored) rest
    | name :: value :: more =>
      if word.startsWith "--" then envWords env ignored rest
      else envWords (env.set name ("=".intercalate (value :: more))) ignored rest
    | _ =>
      if word.startsWith "--" then envWords env ignored rest else (env, ignored, word :: rest)

/-- What `setpriv` is told before the command: whether it has to become someone else, and the
rest. -/
def setprivWords (other : Bool) : List String → Bool × List String
  | [] => (other, [])
  | word :: rest =>
    if word.startsWith "--" then
      setprivWords (other || word.startsWith "--re" || word.startsWith "--ru" || word.startsWith "--eu") rest
    else (other, word :: rest)

end Watchdog.Host.Shell
