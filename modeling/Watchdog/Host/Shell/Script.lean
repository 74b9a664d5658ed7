/-!
# Shell scripts

The commands of a script and how they are read: quoting, expansions, lists, conditions, loops,
groups and redirections.
-/

namespace Watchdog.Host.Shell

/-- What an expansion does when its parameter is unset. -/
inductive ParamUse where
  | plain
  /-- Uses the other word. -/
  | useDefault
  /-- Uses the other word and keeps it. -/
  | assignDefault
  /-- Uses the other word when the parameter is set. -/
  | alternative
  /-- Fails with the other word as message. -/
  | demand
  | length
deriving Repr, DecidableEq

/-- A part of a word. -/
inductive Part where
  | text (s : String) (quoted : Bool)
  /-- A parameter; `colon` makes an empty one count as unset. -/
  | param (name : String) (use : ParamUse) (colon : Bool) (other : List Part) (quoted : Bool)
  | arith (s : String) (quoted : Bool)
  | command (s : String) (quoted : Bool)

abbrev Word := List Part

inductive RedirectKind where
  | input
  | output
  | append
  | duplicate
deriving Repr, DecidableEq

structure Redirect where
  fd : Nat
  kind : RedirectKind
  target : Word

/-- A command of a script. -/
inductive Command where
  | simple (assigns : List (String × Word)) (words : List Word) (redirects : List Redirect)
  | sequence (items : List Command)
  | both (a b : Command)
  | either (a b : Command)
  | negate (a : Command)
  | background (a : Command)
  | pipe (a b : Command)
  | branch (test yes no : Command)
  /-- Repeats the body while the test comes out as `holds`. -/
  | loop (holds : Bool) (test body : Command)
  | forEach (name : String) (words : Option (List Word)) (body : Command)
  | group (body : Command) (redirects : List Redirect)
  | subshell (body : Command) (redirects : List Redirect)

/-! ## Words -/

/-- A character that ends a word unless quoted. -/
def isMeta (c : Char) : Bool := " \t\n;&|()<>".toList.contains c

def isNameStart (c : Char) : Bool := c.isAlpha || c == '_'

def isNameChar (c : Char) : Bool := c.isAlphanum || c == '_'

/-- A parameter named by one character. -/
def isSpecial (c : Char) : Bool := "?$#@*!-".toList.contains c || c.isDigit

/-- The text up to the bracket that closes the one already open, and the text after it.  Brackets
inside quotes do not count. -/
def balanced (opening closing : Char) (depth : Nat) (quote : Option Char) :
    List Char → List Char → Option (List Char × List Char)
  | _, [] => none
  | acc, '\\' :: c :: rest =>
    if quote = some '\'' then balanced opening closing depth quote ('\\' :: acc) (c :: rest)
    else balanced opening closing depth quote (c :: '\\' :: acc) rest
  | acc, c :: rest =>
    match quote with
    | some q => balanced opening closing depth (if c = q then none else quote) (c :: acc) rest
    | none =>
      if c = '\'' || c = '"' then balanced opening closing depth (some c) (c :: acc) rest
      else if c = opening then balanced opening closing (depth + 1) none (c :: acc) rest
      else if c = closing then
        if depth = 0 then some (acc.reverse, rest)
        else balanced opening closing (depth - 1) none (c :: acc) rest
      else balanced opening closing depth none (c :: acc) rest
termination_by _ cs => cs.length

/-- Where a run of parts ends. -/
inductive Extent where
  /-- At a character that ends a word. -/
  | word
  /-- At a double quote. -/
  | quotes
  /-- At the end of the text. -/
  | whole
deriving Repr, DecidableEq

/-- The use of a parameter that a sign asks for. -/
def useOf (c : Char) : Option ParamUse :=
  match c with
  | '-' => some .useDefault
  | '=' => some .assignDefault
  | '+' => some .alternative
  | '?' => some .demand
  | _ => none

/-- Name and rest of the text between the braces of a parameter. -/
def paramName (cs : List Char) : String × List Char :=
  match cs with
  | [] => ("", [])
  | c :: rest =>
    if isNameStart c then
      (String.ofList (cs.takeWhile isNameChar), cs.dropWhile isNameChar)
    else if c.isDigit then (String.ofList (cs.takeWhile Char.isDigit), cs.dropWhile Char.isDigit)
    else (String.singleton c, rest)

mutual

/-- Reads parts; `fuel` bounds the number of characters read. -/
def readParts (fuel : Nat) (extent : Extent) (acc : List Part) (cs : List Char) :
    Option (List Part × List Char) :=
  match fuel with
  | 0 => none
  | fuel + 1 =>
    let quoted := extent == .quotes
    match cs with
    | [] => if quoted then none else some (acc.reverse, [])
    | c :: rest =>
      if extent == .word && isMeta c then some (acc.reverse, cs)
      else if quoted && c == '"' then some (acc.reverse, rest)
      else if c == '\\' then
        match rest with
        | [] => readParts fuel extent (.text "\\" true :: acc) []
        | '\n' :: rest => readParts fuel extent acc rest
        | d :: rest =>
          let text := if quoted && !("$`\"\\".toList.contains d) then String.ofList ['\\', d]
            else String.singleton d
          readParts fuel extent (.text text true :: acc) rest
      else if c == '\'' && !quoted then
        let text := rest.takeWhile (· != '\'')
        match rest.dropWhile (· != '\'') with
        | [] => none
        | _ :: rest => readParts fuel extent (.text (String.ofList text) true :: acc) rest
      else if c == '"' then
        match readParts fuel .quotes [] rest with
        | none => none
        | some (inner, rest) =>
          readParts fuel extent (inner.reverse ++ (.text "" true :: acc)) rest
      else if c == '$' then
        match readDollar fuel quoted rest with
        | none => none
        | some (part, rest) => readParts fuel extent (part :: acc) rest
      else if c == '\x60' then
        let text := rest.takeWhile (· != '\x60')
        match rest.dropWhile (· != '\x60') with
        | [] => none
        | _ :: rest => readParts fuel extent (.command (String.ofList text) quoted :: acc) rest
      else readParts fuel extent (.text (String.singleton c) quoted :: acc) rest

/-- Reads what follows a dollar sign. -/
def readDollar (fuel : Nat) (quoted : Bool) (cs : List Char) : Option (Part × List Char) :=
  match fuel with
  | 0 => none
  | fuel + 1 =>
    match cs with
    | '(' :: rest =>
      match balanced '(' ')' 0 none [] rest with
      | none => none
      | some (inner, rest) =>
        match inner, inner.getLast? with
        | '(' :: more, some ')' => some (.arith (String.ofList more.dropLast) quoted, rest)
        | _, _ => some (.command (String.ofList inner) quoted, rest)
    | '\x7b' :: rest =>
      match balanced '\x7b' '\x7d' 0 none [] rest with
      | none => none
      | some (inner, rest) => (readBraces fuel quoted inner).map (·, rest)
    | c :: rest =>
      if isNameStart c then
        some (.param (String.ofList (cs.takeWhile isNameChar)) .plain false [] quoted,
          cs.dropWhile isNameChar)
      else if isSpecial c then some (.param (String.singleton c) .plain false [] quoted, rest)
      else some (.text "$" quoted, cs)
    | [] => some (.text "$" quoted, [])

/-- Reads the text between the braces of a parameter. -/
def readBraces (fuel : Nat) (quoted : Bool) (cs : List Char) : Option Part :=
  match fuel with
  | 0 => none
  | fuel + 1 =>
    match cs with
    | '#' :: c :: more =>
      let (name, rest) := paramName (c :: more)
      if rest.isEmpty then some (.param name .length false [] quoted) else none
    | _ =>
      let (name, rest) := paramName cs
      let (colon, rest) := match rest with
        | ':' :: rest => (true, rest)
        | rest => (false, rest)
      match rest with
      | [] => if colon then none else some (.param name .plain false [] quoted)
      | sign :: rest =>
        match useOf sign, readParts fuel .whole [] rest with
        | some use, some (other, _) => some (.param name use colon other quoted)
        | _, _ => none

end

/-! ## Tokens -/

inductive Token where
  | word (w : Word)
  | op (s : String)
  | redirect (fd : Nat) (kind : RedirectKind)

/-- The operators, longer ones first. -/
def operators : List String := ["&&", "||", ";;", ";", "&", "|", "(", ")", "\n"]

/-- The operator at the beginning of the text. -/
def operator? (cs : List Char) : Option (String × List Char) :=
  operators.findSome? fun op =>
    if op.toList.isPrefixOf cs then some (op, cs.drop op.length) else none

/-- The redirection at the beginning of the text. -/
def redirect? (cs : List Char) : Option (Token × List Char) :=
  let digits := cs.takeWhile Char.isDigit
  let fd (usual : Nat) : Nat := if digits.isEmpty then usual else (String.ofList digits).toNat?.getD usual
  match cs.dropWhile Char.isDigit with
  | '>' :: '>' :: rest => some (.redirect (fd 1) .append, rest)
  | '>' :: '&' :: rest => some (.redirect (fd 1) .duplicate, rest)
  | '>' :: '|' :: rest => some (.redirect (fd 1) .output, rest)
  | '>' :: rest => some (.redirect (fd 1) .output, rest)
  | '<' :: '&' :: rest => some (.redirect (fd 0) .duplicate, rest)
  | '<' :: rest => some (.redirect (fd 0) .input, rest)
  | _ => none

/-- All tokens of a text. -/
def tokens (fuel : Nat) (acc : List Token) (cs : List Char) : Option (List Token) :=
  match fuel with
  | 0 => none
  | fuel + 1 =>
    match cs with
    | [] => some acc.reverse
    | ' ' :: rest => tokens fuel acc rest
    | '\t' :: rest => tokens fuel acc rest
    | '\\' :: '\n' :: rest => tokens fuel acc rest
    | '#' :: rest => tokens fuel acc (rest.dropWhile (· != '\n'))
    | _ =>
      match redirect? cs with
      | some (t, rest) => tokens fuel (t :: acc) rest
      | none =>
        match operator? cs with
        | some (op, rest) => tokens fuel (.op op :: acc) rest
        | none =>
          match readParts (cs.length + 1) .word [] cs with
          | none => none
          | some (w, rest) => tokens fuel (.word w :: acc) rest

/-- The text of a word without quotes and expansions. -/
def plainText? (w : Word) : Option String :=
  w.foldl (fun acc part =>
    match acc, part with
    | some s, .text t false => some (s ++ t)
    | _, _ => none) (some "")

/-- The first token is this bare word. -/
def startsWith (word : String) : List Token → Bool
  | .word w :: _ => plainText? w == some word
  | _ => false

/-- Bare words that end a list of commands. -/
def closers : List String := ["then", "else", "elif", "fi", "do", "done", "\x7d"]

def dropNewlines : List Token → List Token
  | .op "\n" :: rest => dropNewlines rest
  | ts => ts

/-- An assignment at the beginning of a simple command. -/
def assignment? (w : Word) : Option (String × Word) :=
  let rec go (name : List Char) : Word → Option (String × Word)
    | .text s false :: rest =>
      match s.toList with
      | ['='] => if name.isEmpty then none else some (String.ofList name.reverse, rest)
      | [c] =>
        if (name.isEmpty && isNameStart c) || (!name.isEmpty && isNameChar c) then go (c :: name) rest
        else none
      | _ => none
    | _ => none
  go [] w

/-! ## Commands -/

/-- The redirections at the beginning. -/
def readRedirects (fuel : Nat) (acc : List Redirect) (ts : List Token) :
    List Redirect × List Token :=
  match fuel, ts with
  | fuel + 1, .redirect fd kind :: .word w :: rest => readRedirects fuel (⟨fd, kind, w⟩ :: acc) rest
  | _, ts => (acc.reverse, ts)

/-- A simple command: assignments, words and redirections up to an operator. -/
def readSimple (fuel : Nat) (assigns : List (String × Word)) (words : List Word)
    (redirects : List Redirect) (ts : List Token) : Option (Command × List Token) :=
  match fuel with
  | 0 => none
  | fuel + 1 =>
    match ts with
    | .redirect fd kind :: .word w :: rest =>
      readSimple fuel assigns words (⟨fd, kind, w⟩ :: redirects) rest
    | .redirect _ _ :: _ => none
    | .word w :: rest =>
      match (if words.isEmpty then assignment? w else none) with
      | some a => readSimple fuel (a :: assigns) words redirects rest
      | none => readSimple fuel assigns (w :: words) redirects rest
    | _ =>
      if assigns.isEmpty && words.isEmpty && redirects.isEmpty then none
      else some (.simple assigns.reverse words.reverse redirects.reverse, ts)

/-- The words of a `for`, up to the end of the line. -/
def readForWords (acc : List Word) : List Token → List Word × List Token
  | .word w :: rest => readForWords (w :: acc) rest
  | .op ";" :: rest => (acc.reverse, dropNewlines rest)
  | .op "\n" :: rest => (acc.reverse, dropNewlines rest)
  | ts => (acc.reverse, ts)

/-- The tokens after a bare word, which has to be there. -/
def expect (word : String) (ts : List Token) : Option (List Token) :=
  if startsWith word ts then some ts.tail else none

mutual

/-- Commands up to a token that ends a list. -/
def readList (fuel : Nat) (acc : List Command) (ts : List Token) : Option (Command × List Token) :=
  match fuel with
  | 0 => none
  | fuel + 1 =>
    let ts := dropNewlines ts
    if ts.isEmpty || closers.any (startsWith · ts) then some (.sequence acc.reverse, ts)
    else
      match ts with
      | .op ")" :: _ => some (.sequence acc.reverse, ts)
      | .op ";;" :: _ => some (.sequence acc.reverse, ts)
      | _ =>
        match readAndOr fuel ts with
        | none => none
        | some (c, .op ";" :: rest) => readList fuel (c :: acc) rest
        | some (c, .op "\n" :: rest) => readList fuel (c :: acc) rest
        | some (c, .op "&" :: rest) => readList fuel (.background c :: acc) rest
        | some (c, rest) => some (.sequence (c :: acc).reverse, rest)

/-- Commands joined by conditions. -/
def readAndOr (fuel : Nat) (ts : List Token) : Option (Command × List Token) :=
  match fuel with
  | 0 => none
  | fuel + 1 =>
    match readPipeline fuel ts with
    | none => none
    | some (c, rest) => readConditions fuel c rest

/-- The conditions after a command, from the left. -/
def readConditions (fuel : Nat) (left : Command) (ts : List Token) :
    Option (Command × List Token) :=
  match fuel with
  | 0 => none
  | fuel + 1 =>
    match ts with
    | .op "&&" :: rest =>
      match readPipeline fuel (dropNewlines rest) with
      | none => none
      | some (c, rest) => readConditions fuel (.both left c) rest
    | .op "||" :: rest =>
      match readPipeline fuel (dropNewlines rest) with
      | none => none
      | some (c, rest) => readConditions fuel (.either left c) rest
    | _ => some (left, ts)

/-- Commands joined by pipes, possibly negated. -/
def readPipeline (fuel : Nat) (ts : List Token) : Option (Command × List Token) :=
  match fuel with
  | 0 => none
  | fuel + 1 =>
    if startsWith "!" ts then (readPipeline fuel ts.tail).map fun (c, rest) => (.negate c, rest)
    else
      match readCommand fuel ts with
      | none => none
      | some (c, .op "|" :: rest) =>
        (readPipeline fuel (dropNewlines rest)).map fun (d, rest) => (.pipe c d, rest)
      | some (c, rest) => some (c, rest)

/-- One command. -/
def readCommand (fuel : Nat) (ts : List Token) : Option (Command × List Token) :=
  match fuel with
  | 0 => none
  | fuel + 1 =>
    match ts with
    | .op "(" :: rest => do
      let (body, rest) ← readList fuel [] rest
      match rest with
      | .op ")" :: rest =>
        let (redirects, rest) := readRedirects fuel [] rest
        some (.subshell body redirects, rest)
      | _ => none
    | _ =>
      if startsWith "\x7b" ts then do
        let (body, rest) ← readList fuel [] ts.tail
        let rest ← expect "\x7d" rest
        let (redirects, rest) := readRedirects fuel [] rest
        some (.group body redirects, rest)
      else if startsWith "if" ts then do
        let (c, rest) ← readIf fuel ts.tail
        let (redirects, rest) := readRedirects fuel [] rest
        some (.group c redirects, rest)
      else if startsWith "while" ts || startsWith "until" ts then do
        let (test, rest) ← readList fuel [] ts.tail
        let rest ← expect "do" rest
        let (body, rest) ← readList fuel [] rest
        let rest ← expect "done" rest
        let (redirects, rest) := readRedirects fuel [] rest
        some (.group (.loop (startsWith "while" ts) test body) redirects, rest)
      else if startsWith "for" ts then
        match ts.tail with
        | .word w :: rest => do
          let name ← plainText? w
          let (words, rest) ←
            if startsWith "in" rest then
              let (words, rest) := readForWords [] rest.tail
              some (some words, rest)
            else
              match rest with
              | .op ";" :: rest => some (none, dropNewlines rest)
              | rest => some (none, dropNewlines rest)
          let rest ← expect "do" rest
          let (body, rest) ← readList fuel [] rest
          let rest ← expect "done" rest
          let (redirects, rest) := readRedirects fuel [] rest
          some (.group (.forEach name words body) redirects, rest)
        | _ => none
      else if closers.any (startsWith · ts) then none
      else readSimple (ts.length + 1) [] [] [] ts

/-- A condition, after its first word. -/
def readIf (fuel : Nat) (ts : List Token) : Option (Command × List Token) :=
  match fuel with
  | 0 => none
  | fuel + 1 => do
    let (test, rest) ← readList fuel [] ts
    let rest ← expect "then" rest
    let (yes, rest) ← readList fuel [] rest
    if startsWith "elif" rest then
      let (no, rest) ← readIf fuel rest.tail
      some (.branch test yes no, rest)
    else if startsWith "else" rest then
      let (no, rest) ← readList fuel [] rest.tail
      let rest ← expect "fi" rest
      some (.branch test yes no, rest)
    else
      let rest ← expect "fi" rest
      some (.branch test yes (.sequence []), rest)

end

/-- The commands of a script, if it can be read. -/
def parse (script : String) : Option Command := do
  let ts ← tokens (2 * script.length + 2) [] script.toList
  match readList (8 * ts.length + 8) [] ts with
  | some (c, []) => some c
  | _ => none

end Watchdog.Host.Shell
