import Watchdog.CommandLine.Stop

/-!
# Scanning a command line

Words are read from the left.  A word is an option, the value of the option before it, or an
operand; after `--`, or once an operand says so, all words are operands.  An option takes effect
when its value is complete and the next word is looked at, so of two mistakes the one on the left
is reported, except that a word which cannot be an option at all is reported first.

What the options are and what they do is left to a grammar.
-/

namespace Watchdog.CommandLine

/-- The options and operands of one command; `F` names its options, `S` collects them. -/
structure Grammar (F S : Type) where
  long? : String → Option F
  short? : Char → Option F
  takesValue : F → Bool
  /-- The option as messages show it. -/
  shown : F → String
  /-- Takes in an option; the value is missing only for options that take none. -/
  accept : S → F → Option String → Except Stop S
  /-- The next operand may begin with a hyphen. -/
  hyphenOperand : S → Bool
  /-- Takes in an operand; also says whether all later words are operands. -/
  operand : S → Bool → String → Except Stop (S × Bool)

/-- The state of a scan. -/
structure Scan (F S : Type) where
  state : S
  /-- The last option with its value, or still without one. -/
  pending : Option (F × Option String)
  /-- All later words are operands. -/
  trailing : Bool

namespace Scan

variable {F S : Type}

def start (state : S) : Scan F S := ⟨state, none, false⟩

/-- Lets the last option take effect. -/
def resolve (g : Grammar F S) (s : Scan F S) : Except Stop (Scan F S) :=
  match s.pending with
  | none => .ok s
  | some (f, none) => .error (.missingValue (g.shown f))
  | some (f, some v) => (g.accept s.state f (some v)).map fun state => ⟨state, none, s.trailing⟩

/-- Lets an option take effect at once. -/
def acceptNow (g : Grammar F S) (s : Scan F S) (f : F) (value : Option String) :
    Except Stop (Scan F S) := do
  let s ← s.resolve g
  let state ← g.accept s.state f value
  return { s with state := state }

/-- The next word is to be the value of an option. -/
def expectValue (g : Grammar F S) (s : Scan F S) (f : F) : Except Stop (Scan F S) := do
  let s ← s.resolve g
  return { s with pending := some (f, none) }

/-- Takes a word as operand. -/
def plain (g : Grammar F S) (s : Scan F S) (w : String) : Except Stop (Scan F S) := do
  let s ← s.resolve g
  let (state, trailing) ← g.operand s.state s.trailing w
  return { s with state := state, trailing := trailing }

/-- Takes a word as the value that is expected, else as operand. -/
def valueOrPlain (g : Grammar F S) (s : Scan F S) (w : String) : Except Stop (Scan F S) :=
  match s.pending with
  | some (f, none) => .ok { s with pending := some (f, some w) }
  | _ => s.plain g w

/-- Name and attached value of a word that begins with two hyphens. -/
def longParts? (w : String) : Option (String × Option String) :=
  match w.toList with
  | '-' :: '-' :: cs =>
    let name := String.ofList (cs.takeWhile (· != '='))
    match cs.dropWhile (· != '=') with
    | [] => some (name, none)
    | _ :: value => some (name, some (String.ofList value))
  | _ => none

/-- The letters of a word that begins with one hyphen. -/
def shortParts? (w : String) : Option (List Char) :=
  match w.toList with
  | '-' :: c :: cs => if c = '-' then none else some (c :: cs)
  | _ => none

/-- The value attached to a short option, with or without an equals sign. -/
def attached : List Char → String
  | '=' :: cs => String.ofList cs
  | cs => String.ofList cs

/-- Reads short options that share one hyphen. -/
def cluster (g : Grammar F S) (s : Scan F S) : List Char → Except Stop (Scan F S)
  | [] => .ok s
  | c :: cs =>
    match g.short? c with
    | none => .error (.unknownArgument (String.ofList ['-', c]))
    | some f =>
      if !g.takesValue f then
        match s.acceptNow g f none with
        | .error e => .error e
        | .ok s => cluster g s cs
      else if cs.isEmpty then s.expectValue g f
      else s.acceptNow g f (some (attached cs))

/-- Reads one word. -/
def word (g : Grammar F S) (s : Scan F S) (w : String) : Except Stop (Scan F S) :=
  if s.trailing then s.plain g w
  else if w = "--" then .ok { s with trailing := true }
  else
    match longParts? w with
    | some (name, value) =>
      match g.long? name, value with
      | some f, some v =>
        if g.takesValue f then s.acceptNow g f (some v)
        else .error (.unexpectedValue v (g.shown f))
      | some f, none => if g.takesValue f then s.expectValue g f else s.acceptNow g f none
      | none, _ =>
        if g.hyphenOperand s.state then s.valueOrPlain g w
        else .error (.unknownArgument ("--" ++ name))
    | none =>
      match shortParts? w with
      | some cs =>
        if g.hyphenOperand s.state && cs.any fun c => (g.short? c).isNone then s.valueOrPlain g w
        else s.cluster g cs
      | none => s.valueOrPlain g w

/-- Reads words up to the end. -/
def words (g : Grammar F S) (s : Scan F S) : List String → Except Stop (Scan F S)
  | [] => s.resolve g
  | w :: rest =>
    match s.word g w with
    | .error e => .error e
    | .ok s => words g s rest

/-- An option waits for its value, which is the next word. -/
def awaitsValue (s : Scan F S) : Bool :=
  match s.pending with
  | some (_, none) => !s.trailing
  | _ => false

/-- Reads words up to one that `enters` something else: the scan so far, and that word with the
words after it. -/
def wordsUntil (g : Grammar F S) (enters : String → Bool) (s : Scan F S) :
    List String → Except Stop (Scan F S × Option (String × List String))
  | [] => .ok (s, none)
  | w :: rest =>
    if !s.trailing && !s.awaitsValue && enters w then .ok (s, some (w, rest))
    else
      match s.word g w with
      | .error e => .error e
      | .ok s => wordsUntil g enters s rest

end Scan

end Watchdog.CommandLine
